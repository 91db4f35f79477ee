import RichMarkdown.Proofs.Markup.Labels
import RichMarkdown.Proofs.Markup.Texts

/-! When a syntax tree cannot be built. It can be built if every node that building comes to has what
its element reads, and what stands below the other nodes never makes a difference. -/
namespace RichMarkdown.Markup

open Source (Content)

def TextOrNull (name : String) (values : List (String × Json)) : Prop :=
  ∀ j, Entries.get? name values = some j → j = .null ∨ ∃ s, j = .str s

def levelDigits : List Char :=
  ['1', '2', '3', '4', '5', '6']

def Element.Sound (n : Node) : Element → Prop
  | heading => ∃ c ∈ levelDigits, n.tag.toList[1]? = some c
  | orderedList => ∀ j, Entries.get? "start" n.attrs = some j → ∃ k, j = .int k
  | definition =>
    (∀ name ∈ ["id", "url"], ∃ s, Entries.get? name n.data = some (.str s)) ∧
    ∀ name ∈ ["label", "title"], TextOrNull name n.data
  | footnote | link | image | footnoteReference => TextOrNull "label" n.data
  | _ => True

/-- A node of an unknown type is sound as it is. -/
def Node.Sound (n : Node) : Prop :=
  ∀ e, Element.ofType? n.type = some e → e.Sound n

theorem Node.Sound.of_type {n : Node} {e : Element} (type : Element.ofType? n.type = some e)
    (h : e.Sound n) : n.Sound := by
  intro e' he
  obtain rfl : e = e' := Option.some.inj (type.symm.trans he)
  exact h

mutual

/-- The tree without what building does not come to. -/
def Node.trimmed : Node → Node
  | ⟨type, tag, content, info, attrs, data, children⟩ =>
    ⟨type, tag, content, info, attrs, data,
      if (Element.ofType? type).any Element.holdsChildren then Node.trimmedAll children else []⟩

def Node.trimmedAll : List Node → List Node
  | [] => []
  | n :: rest => n.trimmed :: Node.trimmedAll rest

end

theorem Node.trimmedAll_eq_map (ns : List Node) : trimmedAll ns = ns.map trimmed := by
  induction ns with
  | nil => rfl
  | cons n rest ih => rw [trimmedAll, ih, List.map_cons]

theorem Node.trimmed_eq (n : Node) : n.trimmed = { n with
    children := if (Element.ofType? n.type).any Element.holdsChildren then n.children.map trimmed
      else [] } := by
  obtain ⟨type, tag, content, info, attrs, data, children⟩ := n
  rw [trimmed, trimmedAll_eq_map]

namespace Build

variable {α β : Type}

def Succeeds (x : Build α) : Prop :=
  ∀ log, ∃ a, (x log).1 = .ok a

theorem Succeeds.pure (a : α) : Succeeds (pure a) :=
  fun _ => ⟨a, rfl⟩

theorem Succeeds.lift {x : Except BuildError α} (h : ∃ a, x = .ok a) : Succeeds (liftM x) :=
  fun _ => h

theorem Succeeds.bind {x : Build α} {f : α → Build β} (hx : Succeeds x)
    (hf : ∀ a, Succeeds (f a)) : Succeeds (x >>= f) := by
  intro log
  obtain ⟨a, ha⟩ := hx log
  rw [run_bind]
  rcases hrun : x log with ⟨result, log'⟩
  rw [hrun] at ha
  obtain rfl : result = .ok a := ha
  exact hf a log'

theorem Succeeds.bind_lift {x : Except BuildError α} {a : α} (hx : x = .ok a) {f : α → Build β}
    (hf : Succeeds (f a)) : Succeeds (liftM x >>= f) := by
  rw [hx]
  exact hf

/-- Two steps of which one ends with an error if and only if the other ends with the same error. -/
def FailAlike (x y : Build α) : Prop :=
  ∀ log log' e, (x log).1 = .error e ↔ (y log').1 = .error e

theorem FailAlike.pure (a b : α) : FailAlike (pure a) (pure b) :=
  fun _ _ _ => iff_of_false nofun nofun

theorem FailAlike.lift {x y : Except BuildError α} (h : ∀ e, x = .error e ↔ y = .error e) :
    FailAlike (liftM x) (liftM y) :=
  fun _ _ => h

theorem FailAlike.bind_lift (x : Except BuildError α) {f g : α → Build β}
    (hfg : ∀ a, FailAlike (f a) (g a)) : FailAlike (liftM x >>= f) (liftM x >>= g) := by
  cases x with
  | error d => exact fun _ _ _ => Iff.rfl
  | ok a => exact hfg a

theorem FailAlike.bind {x y : Build α} {f g : α → Build β}
    (hxy : FailAlike x y) (hfg : ∀ a b, FailAlike (f a) (g b)) :
    FailAlike (x >>= f) (y >>= g) := by
  intro log log' e
  have hsame := hxy log log'
  rw [run_bind, run_bind]
  revert hsame
  rcases x log with ⟨result, log⟩
  rcases y log' with ⟨result', log'⟩
  intro hsame
  cases result with
  | error d =>
    obtain rfl : result' = .error d := (hsame d).mp rfl
    exact Iff.rfl
  | ok a =>
    cases result' with
    | error d => cases (hsame d).mpr rfl
    | ok b => exact hfg a b log log' e

end Build

open Build (Succeeds FailAlike)

theorem exists_heading {tag : String} (h : ∃ c ∈ levelDigits, tag.toList[1]? = some c) :
    ∃ level depth, headingNumber tag = .ok level ∧ depthOf level = .ok depth := by
  obtain ⟨c, hc, htag⟩ := h
  have hnumber : headingNumber tag = wholeNumber (.str (String.singleton c)) := by
    unfold headingNumber
    rcases hchars : tag.toList with - | ⟨first, - | ⟨second, rest⟩⟩
    · rw [hchars] at htag
      cases htag
    · rw [hchars] at htag
      cases htag
    · rw [hchars] at htag
      cases htag
      rfl
  have hlevels : levelDigits.map (fun c => Text.wholeNumber? (String.singleton c)) =
      [1, 2, 3, 4, 5, 6].map some := by
    decide +kernel
  have hdepth : ∀ level ∈ [1, 2, 3, 4, 5, 6], ∃ depth, depthOf level = .ok depth := by
    intro level hlevel
    have hbounds : 1 ≤ level ∧ level ≤ 6 := by
      simp only [List.mem_cons, List.not_mem_nil, or_false] at hlevel
      omega
    unfold depthOf Source.HeadingDepth.ofInt?
    rw [dif_pos hbounds]
    exact ⟨_, rfl⟩
  obtain ⟨level, hlevel, hvalue⟩ := List.mem_map.mp (hlevels ▸ List.mem_map_of_mem hc)
  obtain ⟨depth, hdepth⟩ := hdepth level hlevel
  refine ⟨level, depth, ?_, hdepth⟩
  rw [hnumber, wholeNumber, ← hvalue]

theorem exists_start {attrs : List (String × Json)}
    (h : ∀ j, Entries.get? "start" attrs = some j → ∃ k, j = .int k) :
    ∃ start, startOf attrs = .ok start := by
  unfold startOf
  cases hstart : Entries.get? "start" attrs with
  | none => exact ⟨1, rfl⟩
  | some j =>
    obtain ⟨k, rfl⟩ := h j hstart
    exact ⟨k, rfl⟩

theorem nullable_textOrNull {name : String} {values : List (String × Json)}
    (h : TextOrNull name values) : ∃ value, Check.nullable name .text values = .ok value := by
  unfold Check.nullable Check.withDefault
  cases hvalue : Entries.get? name values with
  | none => exact ⟨none, rfl⟩
  | some j =>
    rcases h j hvalue with rfl | ⟨s, rfl⟩
    · exact ⟨none, rfl⟩
    · exact ⟨some s, rfl⟩

theorem given?_textOrNull {name : String} {values : List (String × Json)}
    (h : TextOrNull name values) {j : Json} (hgiven : given? name values = some j) :
    ∃ s, j = .str s := by
  obtain ⟨hvalue, htruthy⟩ := Option.filter_eq_some_iff.mp hgiven
  rcases h j hvalue with rfl | htext
  · cases htruthy
  · exact htext

theorem exists_definition {data : List (String × Json)}
    (hdefined : ∀ name ∈ ["id", "url"], ∃ s, Entries.get? name data = some (.str s))
    (hnull : ∀ name ∈ ["label", "title"], TextOrNull name data) :
    ∃ d, definitionOf data = .ok d := by
  obtain ⟨id, hid⟩ := hdefined "id" (by decide)
  obtain ⟨url, hurl⟩ := hdefined "url" (by decide)
  obtain ⟨label, hlabel⟩ := nullable_textOrNull (hnull "label" (by decide))
  have htitle : ∃ title, Check.optional .text ((given? "title" data).getD .null) = .ok title := by
    cases hgiven : given? "title" data with
    | none => exact ⟨none, rfl⟩
    | some j =>
      obtain ⟨s, rfl⟩ := given?_textOrNull (hnull "title" (by decide)) hgiven
      exact ⟨some s, rfl⟩
  obtain ⟨title, htitle⟩ := htitle
  unfold definitionOf required
  rw [hid, hurl, hlabel]
  dsimp only [bind, Except.bind]
  rw [htitle]
  exact ⟨_, rfl⟩

theorem exists_label {data : List (String × Json)} (title : String)
    (h : TextOrNull "label" data) : ∃ label, labelOf title data = .ok label := by
  obtain ⟨label, hlabel⟩ := nullable_textOrNull h
  unfold labelOf
  rw [hlabel]
  exact ⟨label, rfl⟩

theorem exists_footnoteIdentifier {data : List (String × Json)} (h : TextOrNull "label" data) :
    ∃ identifier, footnoteIdentifier data = .ok identifier := by
  unfold footnoteIdentifier
  cases hgiven : given? "label" data with
  | none => exact ⟨_, rfl⟩
  | some j =>
    obtain ⟨s, rfl⟩ := given?_textOrNull h hgiven
    exact ⟨_, rfl⟩

theorem wrap_succeeds (p : Source.Parent) {below : Build (List Content)} (h : below.Succeeds) :
    (wrap p below).Succeeds :=
  h.bind fun cs => .pure [Content.parent p cs]

theorem Element.build_succeeds {e : Element} {n : Node} (h : e.Sound n)
    {below : Build (List Content)} (hbelow : e.holdsChildren → below.Succeeds) :
    (e.build n below).Succeeds := by
  cases e with
  | heading =>
    obtain ⟨level, depth, hlevel, hdepth⟩ := exists_heading h
    exact .bind_lift hlevel ((hbelow rfl).bind fun cs => .bind_lift hdepth (.pure _))
  | orderedList => exact (Succeeds.lift (exists_start h)).bind fun _ => wrap_succeeds _ (hbelow rfl)
  | definition => exact (Succeeds.lift (exists_definition h.1 h.2)).bind fun _ => .pure _
  | footnote =>
    refine (Succeeds.lift (exists_footnoteIdentifier h)).bind fun _ => (hbelow rfl).bind fun _ => ?_
    exact (Succeeds.lift (exists_label _ h)).bind fun _ => .pure _
  | group => exact hbelow rfl
  | link =>
    refine (hbelow rfl).bind fun _ => (Succeeds.lift ?_).bind fun _ => .pure _
    exact linkOf_labelled fun _ => given?_textOrNull h
  | image =>
    have hlabelled : n.Labelled := fun _ => given?_textOrNull h
    obtain ⟨l, hl, -⟩ := imageOf_labelled hlabelled n.plainText
    exact (Succeeds.lift ⟨l, hl⟩).bind fun _ => .pure _
  | footnoteReference =>
    refine (Succeeds.lift (exists_footnoteIdentifier h)).bind fun _ => ?_
    exact (Succeeds.lift (exists_label _ h)).bind fun _ => .pure _
  | paragraph | blockquote | bulletList | listItem | table | tableRow | tableCell | emphasis
  | strong | delete => exact wrap_succeeds _ (hbelow rfl)
  | _ => exact .pure _

theorem buildJoined_succeeds {ns : List Node} (h : ∀ n ∈ ns, (buildNode n).Succeeds) :
    (buildJoined ns).Succeeds := by
  refine Succeeds.bind ?_ fun cs => .pure (joinTexts cs)
  induction ns with
  | nil => exact .pure []
  | cons n rest ih =>
    obtain ⟨hn, hrest⟩ := List.forall_mem_cons.mp h
    exact hn.bind fun first => (ih hrest).bind fun others => .pure (first ++ others)

theorem buildNode_succeeds (n : Node) (h : ∀ m ∈ n.reached, m.Sound) :
    (buildNode n).Succeeds := by
  induction n using Node.induction with
  | step n ih =>
    rw [Node.reached_eq, List.forall_mem_cons] at h
    obtain ⟨hsound, hbelow⟩ := h
    rw [buildNode_eq]
    cases he : Element.ofType? n.type with
    | none => exact fun _ => ⟨[], rfl⟩
    | some e =>
      refine Element.build_succeeds (hsound e he) fun hholds => buildJoined_succeeds fun c hc => ?_
      rw [he, Option.any_some, hholds, if_pos rfl] at hbelow
      exact ih c hc fun m hm => hbelow m (List.mem_flatMap.mpr ⟨c, hc, hm⟩)

theorem wrap_failAlike (p : Source.Parent) {below below' : Build (List Content)}
    (h : FailAlike below below') : FailAlike (wrap p below) (wrap p below') :=
  h.bind fun cs ds => .pure [Content.parent p cs] [Content.parent p ds]

theorem imageOf_eq_error_iff {alt : String} {attrs data : List (String × Json)} {e : BuildError} :
    imageOf alt attrs data = .error e ↔
      ∃ label, given? "label" data = some label ∧ identifierOf label = .error e := by
  unfold imageOf
  cases given? "label" data with
  | none => simp
  | some label => cases hid : identifierOf label <;> simp [hid, bind, Except.bind, pure, Except.pure]

theorem Element.build_failAlike (e : Element) (n : Node) (children : List Node)
    {below below' : Build (List Content)} (h : e.holdsChildren → FailAlike below below') :
    FailAlike (e.build n below) (e.build { n with children } below') := by
  cases e with
  | heading =>
    refine .bind_lift (headingNumber n.tag) fun level => (h rfl).bind fun cs ds => ?_
    exact .bind_lift (depthOf level) fun _ => .pure _ _
  | orderedList => exact .bind_lift (startOf n.attrs) fun _ => wrap_failAlike _ (h rfl)
  | definition => exact .bind_lift (definitionOf n.data) fun _ => .pure _ _
  | footnote =>
    refine .bind_lift (footnoteIdentifier n.data) fun _ => (h rfl).bind fun cs ds => ?_
    exact .bind_lift (labelOf "FootnoteDefinition" n.data) fun _ => .pure _ _
  | group => exact h rfl
  | link => exact (h rfl).bind fun cs ds => .bind_lift (linkOf n.attrs n.data) fun _ => .pure _ _
  | image =>
    refine FailAlike.bind (.lift fun e => ?_) fun _ _ => .pure _ _
    rw [imageOf_eq_error_iff, imageOf_eq_error_iff]
  | footnoteReference =>
    refine .bind_lift (footnoteIdentifier n.data) fun _ => ?_
    exact .bind_lift (labelOf "FootnoteReference" n.data) fun _ => .pure _ _
  | paragraph | blockquote | bulletList | listItem | table | tableRow | tableCell | emphasis
  | strong | delete => exact wrap_failAlike _ (h rfl)
  | _ => exact .pure _ _

theorem buildJoined_failAlike {ns : List Node}
    (h : ∀ n ∈ ns, FailAlike (buildNode n) (buildNode n.trimmed)) :
    FailAlike (buildJoined ns) (buildJoined (ns.map Node.trimmed)) := by
  refine FailAlike.bind ?_ fun cs ds => .pure (joinTexts cs) (joinTexts ds)
  induction ns with
  | nil => exact .pure [] []
  | cons n rest ih =>
    obtain ⟨hn, hrest⟩ := List.forall_mem_cons.mp h
    exact hn.bind fun _ _ => (ih hrest).bind fun _ _ => .pure _ _

theorem buildNode_failAlike (n : Node) : FailAlike (buildNode n) (buildNode n.trimmed) := by
  induction n using Node.induction with
  | step n ih =>
    rw [Node.trimmed_eq, buildNode_eq, buildNode_eq]
    dsimp only
    cases he : Element.ofType? n.type with
    | none => exact fun _ _ _ => Iff.rfl
    | some e =>
      refine Element.build_failAlike e n _ fun hholds => ?_
      rw [Option.any_some, hholds, if_pos rfl]
      exact buildJoined_failAlike ih

/-- A syntax tree is built if every node that building comes to is sound, whatever stands below the
nodes whose children are not looked at. These children make no difference to any error either: a
tree fails as it does without them. -/
theorem build_of_sound :
    (∀ root : Node, (∀ n ∈ root.children.flatMap Node.reached, n.Sound) →
      ∃ cs, (build root).1 = .ok (.root cs)) ∧
    ∀ (root : Node) (e : BuildError), (build root).1 = .error e ↔
      (build { root with children := root.children.map Node.trimmed }).1 = .error e := by
  constructor
  · intro root h
    have hnodes : ∀ n ∈ root.children, (buildNode n).Succeeds := fun n hn =>
      buildNode_succeeds n fun m hm => h m (List.mem_flatMap.mpr ⟨n, hn, hm⟩)
    obtain ⟨cs, hrun⟩ := buildJoined_succeeds hnodes []
    rw [build_answer, hrun]
    exact ⟨cs, rfl⟩
  · -- Building a root adds no error to those of its children.
    intro root e
    have herror : ∀ x : Except BuildError (List Content),
        x.map Source.Node.root = .error e ↔ x = .error e := by
      intro x
      cases x <;> simp [Except.map]
    rw [build_answer, build_answer, herror, herror]
    exact buildJoined_failAlike (fun n _ => buildNode_failAlike n) [] [] e

def misfits : List Node :=
  [{ type := "heading" }, { type := "definition", data := [("id", .str "A")] }]

def shelteringTree : Node :=
  { type := "root", children := [
    { type := "heading", tag := "h2", children := [{ type := "image", children := misfits }] },
    { type := "ordered_list", attrs := [("start", .int 0)] },
    definitionNode "A",
    { type := "hr", children := misfits },
    { type := "html_block", children := misfits }] }

theorem definitionNode_sound (label : String) : Element.definition.Sound (definitionNode label) := by
  have habsent : ∀ name ∈ ["label", "title"], TextOrNull name (definitionNode label).data := by
    simp [TextOrNull, definitionNode, Entries.get?]
  refine ⟨?_, habsent⟩
  simp [definitionNode, Entries.get?]

theorem shelteringTree_sound : ∀ n ∈ shelteringTree.children.flatMap Node.reached, n.Sound := by
  have hreached : shelteringTree.children.flatMap Node.reached = [
      { type := "heading", tag := "h2", children := [{ type := "image", children := misfits }] },
      { type := "image", children := misfits },
      { type := "ordered_list", attrs := [("start", .int 0)] },
      definitionNode "A",
      { type := "hr", children := misfits },
      { type := "html_block", children := misfits }] := rfl
  rw [hreached]
  simp only [List.forall_mem_cons]
  refine ⟨?_, ?_, ?_, ?_, ?_, ?_, nofun⟩
  · exact .of_type rfl ⟨'2', by decide, rfl⟩
  · exact .of_type (e := .image) rfl nofun
  · exact .of_type (e := .orderedList) rfl fun j hj => ⟨0, (Option.some.inj hj).symm⟩
  · exact .of_type rfl (definitionNode_sound "A")
  · exact .of_type (e := .thematicBreak) rfl trivial
  · exact nofun

theorem shelteringTree_built :
    (∀ n ∈ shelteringTree.children.flatMap Node.reached, n.Sound) ∧
    (∀ n ∈ misfits, ∃ e, (buildNode n []).1 = .error e) ∧
    (∃ cs, (build shelteringTree).1 = .ok (.root cs)) ∧
    (build shelteringTree).1 = .ok (.root [
      .parent (.heading ⟨2, by decide, by decide⟩) [.leaf (.image "" none (some ""))],
      .parent (.list true (some 0)) [],
      .leaf (.definition ⟨"a", none, "u", none⟩),
      .leaf .thematicBreak]) := by
  refine ⟨shelteringTree_sound, ?_, build_of_sound.1 _ shelteringTree_sound, ?_⟩
  · simp only [misfits, List.forall_mem_cons]
    exact ⟨⟨.shortTag, rfl⟩, ⟨.missingKey "url", rfl⟩, nofun⟩
  · with_unfolding_all rfl

end RichMarkdown.Markup
