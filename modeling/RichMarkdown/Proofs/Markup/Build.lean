import RichMarkdown.Markup.Build

/-! Building the source tree of a syntax tree: how texts are joined, and that what the nodes become
depends on the children of a node only through what these become. -/
namespace RichMarkdown.Markup

open Source (Content)

def joinFront : Content → List Content → List Content
  | .leaf (.text a), .leaf (.text b) :: more => .text (a ++ b) :: more
  | c, joined => c :: joined

theorem joinTexts_cons (c : Content) (rest : List Content) :
    joinTexts (c :: rest) = joinFront c (joinTexts rest) := by
  cases c with
  | parent p cs => rfl
  | leaf l =>
    cases l with
    | text a => rw [joinTexts]; split <;> simp_all [joinFront]
    | _ => rfl

theorem joinFront_text_text (a b : String) (cs : List Content) :
    joinFront (.text a) (joinFront (.text b) cs) = joinFront (.text (a ++ b)) cs := by
  cases cs with
  | nil => rfl
  | cons c rest =>
    cases c with
    | parent p below => rfl
    | leaf l =>
      cases l with
      | text d => exact congrArg (fun value => .text value :: rest) (String.append_assoc ..).symm
      | _ => rfl

theorem joinTexts_joinFront (c : Content) (cs ds : List Content) :
    joinTexts (joinFront c cs ++ ds) = joinFront c (joinTexts (cs ++ ds)) := by
  fun_cases joinFront c cs with
  | case1 a b more =>
    rw [List.cons_append, List.cons_append, joinTexts_cons, joinTexts_cons, joinFront_text_text]
  | case2 c cs _ => rw [List.cons_append, joinTexts_cons]

@[simp] theorem joinTexts_joinTexts_append (cs ds : List Content) :
    joinTexts (joinTexts cs ++ ds) = joinTexts (cs ++ ds) := by
  induction cs with
  | nil => rfl
  | cons c rest ih => rw [joinTexts_cons, joinTexts_joinFront, ih, List.cons_append, joinTexts_cons]

@[simp] theorem joinTexts_joinTexts (cs : List Content) :
    joinTexts (joinTexts cs) = joinTexts cs := by
  have happend := joinTexts_joinTexts_append cs []
  rwa [List.append_nil, List.append_nil] at happend

@[simp] theorem joinTexts_append_joinTexts (cs ds : List Content) :
    joinTexts (cs ++ joinTexts ds) = joinTexts (cs ++ ds) := by
  induction cs with
  | nil => exact joinTexts_joinTexts ds
  | cons c rest ih => rw [List.cons_append, List.cons_append, joinTexts_cons, joinTexts_cons, ih]

theorem Node.induction {motive : Node → Prop}
    (step : ∀ n : Node, (∀ c ∈ n.children, motive c) → motive n) (n : Node) : motive n :=
  match n with
  | ⟨_, _, _, _, _, _, _⟩ => step _ fun c _ => Node.induction step c

def buildJoined (nodes : List Node) : Build (List Content) := do
  return joinTexts (← buildNodes nodes)

theorem buildNode_eq (n : Node) : buildNode n = match Element.ofType? n.type with
    | some e => e.build n (buildJoined n.children)
    | none => do
      modify (· ++ ["Skipping unsupported markdown node " ++ Text.quoted n.type])
      return [] := by
  obtain ⟨type, tag, content, info, attrs, data, children⟩ := n
  rw [buildNode]
  rfl

theorem buildNodes_append (ms ns : List Node) : buildNodes (ms ++ ns) = do
    let first ← buildNodes ms
    let others ← buildNodes ns
    return first ++ others := by
  induction ms with
  | nil => simp [buildNodes]
  | cons n rest ih =>
    simp only [List.cons_append, buildNodes, ih, bind_assoc, pure_bind, List.append_assoc]

theorem buildNodes_singleton (n : Node) : buildNodes [n] = buildNode n := by
  simp [buildNodes]

theorem buildJoined_append (ms ns : List Node) : buildJoined (ms ++ ns) = do
    let first ← buildJoined ms
    let others ← buildJoined ns
    return joinTexts (first ++ others) := by
  simp [buildJoined, buildNodes_append]

namespace Build

variable {α β : Type}

theorem run_bind (x : Build α) (f : α → Build β) (log : List String) :
    (x >>= f) log = match x log with
      | (.ok a, log) => f a log
      | (.error e, log) => (.error e, log) := by
  change (match x log with
    | (result, log) => ExceptT.bindCont f result log) = _
  rcases x log with ⟨result, log⟩
  cases result <;> rfl

/-- Two steps with the same answer, whatever was logged before them. -/
def Alike (x y : Build α) : Prop :=
  ∀ log log', (x log).1 = (y log').1

theorem Alike.pure (a : α) : Alike (pure a) (pure a) :=
  fun _ _ => rfl

theorem Alike.lift (a : Except BuildError α) : Alike (liftM a) (liftM a) :=
  fun _ _ => rfl

theorem Alike.bind {x y : Build α} {f g : α → Build β} (hxy : Alike x y)
    (hfg : ∀ a, Alike (f a) (g a)) : Alike (x >>= f) (y >>= g) := by
  intro log log'
  have hsame := hxy log log'
  rw [run_bind, run_bind]
  revert hsame
  rcases x log with ⟨result, log⟩
  rcases y log' with ⟨result', log'⟩
  rintro rfl
  cases result with
  | error e => rfl
  | ok a => exact hfg a log log'

end Build

open Build (Alike)

theorem wrap_alike (p : Source.Parent) {below below' : Build (List Content)}
    (h : Alike below below') : Alike (wrap p below) (wrap p below') :=
  h.bind fun cs => .pure [Content.parent p cs]

/-- What an element becomes depends on the children of its node only through what these become, the
plain text of an image apart. -/
theorem Element.build_alike (e : Element) (n : Node) {children : List Node}
    (himage : e = .image → ({ n with children := children } : Node).plainText = n.plainText)
    {below below' : Build (List Content)} (h : Alike below below') :
    Alike (e.build n below) (e.build { n with children := children } below') := by
  cases e with
  | heading =>
    refine (Alike.lift (headingNumber n.tag)).bind fun level => h.bind fun cs => ?_
    exact (Alike.lift (depthOf level)).bind fun depth => .pure _
  | orderedList => exact (Alike.lift (startOf n.attrs)).bind fun start => wrap_alike _ h
  | definition => exact (Alike.lift (definitionOf n.data)).bind fun d => .pure _
  | footnote =>
    refine (Alike.lift (footnoteIdentifier n.data)).bind fun identifier => h.bind fun cs => ?_
    exact (Alike.lift (labelOf "FootnoteDefinition" n.data)).bind fun label => .pure _
  | group => exact h
  | link => exact h.bind fun cs => (Alike.lift (linkOf n.attrs n.data)).bind fun p => .pure _
  | image =>
    rw [Element.build, Element.build, himage rfl]
    exact (Alike.lift (imageOf n.plainText n.attrs n.data)).bind fun l => .pure _
  | footnoteReference =>
    refine (Alike.lift (footnoteIdentifier n.data)).bind fun identifier => ?_
    exact (Alike.lift (labelOf "FootnoteReference" n.data)).bind fun label => .pure _
  | paragraph | blockquote | bulletList | listItem | table | tableRow | tableCell | emphasis
  | strong | delete => exact wrap_alike _ h
  | _ => exact .pure _

theorem Element.type_of_image {type : String} (h : ofType? type = some .image) :
    type = "image" := by
  unfold ofType? at h
  split at h <;> first | rfl | cases h

theorem buildNode_alike {n : Node} {children : List Node}
    (himage : n.type = "image" →
      ({ n with children := children } : Node).plainText = n.plainText)
    (h : Alike (buildJoined n.children) (buildJoined children)) :
    Alike (buildNode n) (buildNode { n with children := children }) := by
  rw [buildNode_eq, buildNode_eq]
  dsimp only
  cases he : Element.ofType? n.type with
  | none => exact fun _ _ => rfl
  | some e =>
    refine Element.build_alike e n (fun himg => himage ?_) h
    exact Element.type_of_image (he.trans (congrArg some himg))

theorem buildJoined_alike (nodes : List Node) : Alike (buildJoined nodes) (buildJoined nodes) := by
  have hnodes : ∀ nodes : List Node, (∀ n ∈ nodes, Alike (buildNode n) (buildNode n)) →
      Alike (buildJoined nodes) (buildJoined nodes) := by
    intro nodes hnodes
    refine Alike.bind ?_ fun cs => .pure _
    induction nodes with
    | nil => exact .pure []
    | cons n rest ih =>
      have hrest := ih fun m hm => hnodes m (List.mem_cons_of_mem n hm)
      exact (hnodes n List.mem_cons_self).bind fun first => hrest.bind fun others => .pure _
  have hnode : ∀ n, Alike (buildNode n) (buildNode n) := by
    intro n
    induction n using Node.induction with
    | step n ih =>
      rcases n with ⟨type, tag, content, info, attrs, data, children⟩
      exact buildNode_alike (fun _ => rfl) (hnodes children ih)
  exact hnodes nodes fun n _ => hnode n

end RichMarkdown.Markup
