import RichMarkdown.Proofs.Markup.Recut

/-! The plain text of inline markdown, read off the syntax tree or off what is built from it. The
two differ in nothing but the line ends at soft breaks. -/
namespace RichMarkdown

open Source (Content Leaf)

namespace Source

def Leaf.plainText : Leaf → String
  | text value => value
  | inlineCode value => value
  | hardBreak => " "
  | image _ _ alt => alt.getD ""
  | imageReference _ _ alt => alt.getD ""
  | thematicBreak | code .. | definition _ | footnoteReference .. => ""

mutual

def Content.plainText : Content → String
  | .leaf l => l.plainText
  | .parent _ cs => Content.plainTexts cs

def Content.plainTexts : List Content → String
  | [] => ""
  | c :: rest => c.plainText ++ Content.plainTexts rest

end

theorem Content.plainTexts_append (cs ds : List Content) :
    plainTexts (cs ++ ds) = plainTexts cs ++ plainTexts ds := by
  induction cs with
  | nil => exact String.empty_append.symm
  | cons c rest ih => rw [List.cons_append, plainTexts, plainTexts, ih, String.append_assoc]

theorem Content.plainTexts_singleton (c : Content) : plainTexts [c] = c.plainText := by
  rw [plainTexts, plainTexts, String.append_empty]

end Source

def spaced (s : String) : String :=
  s.map fun c => if c = '\n' then ' ' else c

theorem spaced_append (s t : String) : spaced (s ++ t) = spaced s ++ spaced t := by
  apply String.toList_injective
  simp [spaced]

namespace Markup

theorem plainTexts_joinFront (c : Content) (cs : List Content) :
    Content.plainTexts (joinFront c cs) = Content.plainTexts (c :: cs) := by
  fun_cases joinFront c cs with
  | case1 a b more => simp [Content.plainTexts, Content.plainText, Leaf.plainText, String.append_assoc]
  | case2 c cs _ => rfl

theorem plainTexts_joinTexts (cs : List Content) :
    Content.plainTexts (joinTexts cs) = Content.plainTexts cs := by
  induction cs with
  | nil => rfl
  | cons c rest ih =>
    rw [joinTexts_cons, plainTexts_joinFront, Content.plainTexts, Content.plainTexts, ih]

namespace Build

variable {α β : Type}

/-- Whatever was logged before it, a step logs nothing and succeeds with a good answer. -/
def Yields (x : Build α) (good : α → Prop) : Prop :=
  ∀ log, ∃ a, x log = (.ok a, log) ∧ good a

theorem Yields.pure {good : α → Prop} {a : α} (h : good a) : Yields (pure a) good :=
  fun _ => ⟨a, rfl, h⟩

theorem Yields.bind {x : Build α} {f : α → Build β} {good : α → Prop} {good' : β → Prop}
    (hx : Yields x good) (hf : ∀ a, good a → Yields (f a) good') : Yields (x >>= f) good' := by
  intro log
  obtain ⟨a, hrun, ha⟩ := hx log
  obtain ⟨b, hrest, hb⟩ := hf a ha log
  refine ⟨b, ?_, hb⟩
  rw [run_bind, hrun]
  exact hrest

end Build

open Build (Yields)

def Says (value : String) (cs : List Content) : Prop :=
  spaced (Content.plainTexts cs) = spaced value

theorem Says.append {value value' : String} {cs ds : List Content} (hcs : Says value cs)
    (hds : Says value' ds) : Says (value ++ value') (cs ++ ds) := by
  unfold Says at *
  rw [Content.plainTexts_append, spaced_append, hcs, hds, spaced_append]

theorem Says.joined {value : String} {cs : List Content} (h : Says value cs) :
    Says value (joinTexts cs) := by
  unfold Says at *
  rw [plainTexts_joinTexts, h]

theorem Says.parent (p : Source.Parent) {value : String} {cs : List Content} (h : Says value cs) :
    Says value [.parent p cs] := by
  unfold Says at *
  rw [Content.plainTexts_singleton, Content.plainText, h]

theorem Says.leaf (l : Leaf) : Says l.plainText [.leaf l] := by
  unfold Says
  rw [Content.plainTexts_singleton, Content.plainText]

def atomTypes : List String :=
  ["text", "text_special", "softbreak", "hardbreak", "code_inline"]

def spanTypes : List String :=
  ["inline", "em", "strong", "s", "link"]

def Node.Labelled (n : Node) : Prop :=
  ∀ label, given? "label" n.data = some label → ∃ s, label = .str s

/-- A node of inline markdown. Atoms have no children, and a span without children has no content
either. What stands below an image is free. -/
inductive Node.Inline : Node → Prop
  | atom {n : Node} (type : n.type ∈ atomTypes) (children : n.children = []) : Inline n
  | span {n : Node} (type : n.type ∈ spanTypes) (content : n.children = [] → n.content = "")
      (label : n.Labelled) (below : ∀ c ∈ n.children, Inline c) : Inline n
  | image {n : Node} (type : n.type = "image") (label : n.Labelled) : Inline n

theorem Node.plainText_eq (n : Node) : n.plainText =
    if n.children = [] then
      if n.type = "softbreak" ∨ n.type = "hardbreak" then " " else n.content
    else plainTexts n.children := by
  obtain ⟨type, tag, content, info, attrs, data, children⟩ := n
  cases children with
  | nil => simp [plainText]
  | cons c rest => simp [plainText, plainTexts]

theorem Node.plainText_span {n : Node} (type : n.type ∈ spanTypes)
    (content : n.children = [] → n.content = "") : n.plainText = plainTexts n.children := by
  have hbreak : ∀ type ∈ spanTypes, ¬(type = "softbreak" ∨ type = "hardbreak") := by decide
  rw [plainText_eq]
  split
  · next hnil =>
    rw [if_neg (hbreak _ type), content hnil, hnil, plainTexts]
  · rfl

theorem linkOf_labelled {n : Node} (h : n.Labelled) : ∃ p, linkOf n.attrs n.data = .ok p := by
  unfold linkOf
  cases hlabel : given? "label" n.data with
  | none => exact ⟨_, rfl⟩
  | some label =>
    obtain ⟨s, rfl⟩ := h label hlabel
    exact ⟨_, rfl⟩

theorem imageOf_labelled {n : Node} (h : n.Labelled) (alt : String) :
    ∃ l, imageOf alt n.attrs n.data = .ok l ∧ l.plainText = alt := by
  unfold imageOf
  cases hlabel : given? "label" n.data with
  | none => exact ⟨_, rfl, rfl⟩
  | some label =>
    obtain ⟨s, rfl⟩ := h label hlabel
    exact ⟨_, rfl, rfl⟩

theorem says_textNodes (value : String) : Says value (textNodes value) := by
  unfold textNodes
  split
  · next hempty =>
    rw [String.isEmpty_iff.mp hempty]
    rfl
  · exact .leaf (.text value)

theorem says_softBreak : Says " " [.text "\n"] := by
  unfold Says
  rw [Content.plainTexts_singleton]
  apply String.toList_injective
  simp [spaced, Content.plainText, Leaf.plainText]

theorem buildNode_atom {n : Node} (type : n.type ∈ atomTypes) (children : n.children = []) :
    (buildNode n).Yields (Says n.plainText) := by
  rw [Node.plainText_eq, if_pos children]
  by_cases htext : n.type ∈ textTypes
  · have hbreak : ∀ type ∈ textTypes, ¬(type = "softbreak" ∨ type = "hardbreak") := by decide
    rw [buildNode_text htext, if_neg (hbreak _ htext)]
    exact .pure (says_textNodes n.content)
  · simp only [atomTypes, textTypes, List.mem_cons, List.not_mem_nil, or_false] at type htext
    rw [buildNode_eq]
    rcases type with h | h | h | h | h
    · exact absurd (.inl h) htext
    · exact absurd (.inr h) htext
    · rw [h]
      exact .pure says_softBreak
    · rw [h]
      exact .pure (.leaf .hardBreak)
    · rw [h]
      exact .pure (.leaf (.inlineCode n.content))

theorem wrap_yields (p : Source.Parent) {below : Build (List Content)} {value : String}
    (h : below.Yields (Says value)) : (wrap p below).Yields (Says value) :=
  h.bind fun _ hcs => .pure (hcs.parent p)

theorem buildNode_span {n : Node} (type : n.type ∈ spanTypes) (label : n.Labelled) {value : String}
    (below : (buildJoined n.children).Yields (Says value)) :
    (buildNode n).Yields (Says value) := by
  simp only [spanTypes, List.mem_cons, List.not_mem_nil, or_false] at type
  rw [buildNode_eq]
  rcases type with h | h | h | h | h
  · rw [h]
    exact below
  · rw [h]
    exact wrap_yields .emphasis below
  · rw [h]
    exact wrap_yields .strong below
  · rw [h]
    exact wrap_yields .delete below
  · rw [h]
    obtain ⟨p, hp⟩ := linkOf_labelled label
    refine below.bind fun cs hcs => ?_
    rw [hp]
    exact .pure (hcs.parent p)

theorem buildNode_of_image {n : Node} (type : n.type = "image") :
    buildNode n = do return [.leaf (← imageOf n.plainText n.attrs n.data)] := by
  rw [buildNode_eq, type]
  rfl

theorem buildNode_image {n : Node} (type : n.type = "image") (label : n.Labelled) :
    (buildNode n).Yields (Says n.plainText) := by
  obtain ⟨l, hl, halt⟩ := imageOf_labelled label n.plainText
  have hsays : Says n.plainText [.leaf l] := by
    rw [← halt]
    exact .leaf l
  rw [buildNode_of_image type, hl]
  exact .pure hsays

theorem buildNodes_yields {ns : List Node} (h : ∀ n ∈ ns, (buildNode n).Yields (Says n.plainText)) :
    (buildNodes ns).Yields (Says (plainTexts ns)) := by
  induction ns with
  | nil => exact .pure rfl
  | cons n rest ih =>
    obtain ⟨hn, hrest⟩ := List.forall_mem_cons.mp h
    rw [buildNodes, plainTexts]
    exact hn.bind fun first hfirst => (ih hrest).bind fun others hothers =>
      .pure (hfirst.append hothers)

/-- Inline markdown is built without an error, and what it becomes says the plain text of the
syntax tree, line ends apart. -/
theorem buildNode_plainText {n : Node} (h : n.Inline) (log : List String) :
    ∃ cs, buildNode n log = (.ok cs, log) ∧
      spaced n.plainText = spaced (Content.plainTexts cs) := by
  have hyields : (buildNode n).Yields (Says n.plainText) := by
    induction h with
    | atom type children => exact buildNode_atom type children
    | @span n type content label _ ih =>
      rw [Node.plainText_span type content]
      exact buildNode_span type label ((buildNodes_yields ih).bind fun _ hcs => .pure hcs.joined)
    | image type label => exact buildNode_image type label
  obtain ⟨cs, hrun, hsays⟩ := hyields log
  exact ⟨cs, hrun, hsays.symm⟩

def linkedLines : Node :=
  { type := "link", data := [("label", .str "Ref")], children := [textNode "a",
    { type := "softbreak" }, textNode "", { type := "em", children := [textNode "b",
      { type := "code_inline", content := "c" }] },
    { type := "image", data := [("label", .str "")], children := [textNode "d",
      { type := "hardbreak" }, textNode "e"] }] }

theorem linkedLines_inline : linkedLines.Inline := by
  have hlabel : ∀ {n : Node} {s : String}, n.data = [("label", .str s)] → n.Labelled := by
    intro n s hdata label hgiven
    rw [hdata] at hgiven
    obtain ⟨hfound, -⟩ := Option.mem_filter_iff.mp hgiven
    exact ⟨s, (Option.some.inj hfound).symm⟩
  have hbare : ∀ {n : Node}, n.data = [] → n.Labelled := by
    intro n hdata label hgiven
    rw [hdata] at hgiven
    cases hgiven
  have hem : Node.Inline { type := "em", children := [textNode "b",
      { type := "code_inline", content := "c" }] } := by
    refine .span (by decide) nofun (hbare rfl) ?_
    simp only [List.forall_mem_cons]
    exact ⟨.atom (by decide) rfl, .atom (by decide) rfl, nofun⟩
  refine .span (by decide) nofun (hlabel rfl) ?_
  simp only [linkedLines, List.forall_mem_cons]
  exact ⟨.atom (by decide) rfl, .atom (by decide) rfl, .atom (by decide) rfl, hem,
    .image rfl (hlabel rfl), nofun⟩

theorem linkedLines_plainText :
    linkedLines.Inline ∧ linkedLines.plainText = "a bcd e" ∧
    ∃ cs, buildNode linkedLines [] = (.ok cs, []) ∧
      spaced linkedLines.plainText = spaced (Content.plainTexts cs) :=
  ⟨linkedLines_inline, by decide, buildNode_plainText linkedLines_inline []⟩

end Markup

end RichMarkdown
