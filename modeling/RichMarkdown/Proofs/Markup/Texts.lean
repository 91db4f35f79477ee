import Mathlib.Data.List.Chain
import RichMarkdown.Proofs.Markup.Recut
import RichMarkdown.Proofs.Source.Nodes

/-! The texts of a syntax tree in the source tree that is built from it. None is lost, none is left
empty, and no two stand next to each other. -/
namespace RichMarkdown

open Source (Content)

namespace Source

def Content.text? : Content → Option String
  | .leaf (.text value) => some value
  | _ => none

theorem Content.text?_eq_some_iff {c : Content} {value : String} :
    c.text? = some value ↔ c = .text value := by
  cases c with
  | parent p cs => simp [text?]
  | leaf l => cases l <;> simp [text?]

def Node.text? : Node → Option String
  | root _ => none
  | content c => c.text?

/-- Children in which no text is empty and no two texts stand next to each other. -/
structure Tidy (cs : List Content) : Prop where
  nonempty : ∀ c ∈ cs, c.text? ≠ some ""
  apart : cs.IsChain fun c d => c.text? = none ∨ d.text? = none

theorem Tidy.nil : Tidy [] :=
  ⟨by simp, List.isChain_nil⟩

end Source

namespace Markup

open Source (Tidy)

def Element.holdsChildren : Element → Bool
  | paragraph | heading | blockquote | bulletList | orderedList | listItem | table | tableRow
  | tableCell | footnote | group | emphasis | strong | delete | link => true
  | fence | codeBlock | thematicBreak | definition | text | softBreak | hardBreak | inlineCode
  | image | footnoteReference | anchor => false

def Node.text? (n : Node) : Option String :=
  if n.type ∈ textTypes then some n.content
  else if n.type = "softbreak" then some "\n"
  else none

mutual

/-- The nodes from the given one on, in document order, without those below a node whose children
are not looked at. -/
def Node.reached : Node → List Node
  | ⟨type, tag, content, info, attrs, data, children⟩ =>
    ⟨type, tag, content, info, attrs, data, children⟩ ::
      if (Element.ofType? type).any Element.holdsChildren then Node.reachedOf children else []

def Node.reachedOf : List Node → List Node
  | [] => []
  | n :: rest => n.reached ++ Node.reachedOf rest

end

def textOf (cs : List Content) : String :=
  String.join ((Content.nodesOf cs).filterMap Content.text?)

def reachedText (ns : List Node) : String :=
  String.join ((Node.reachedOf ns).filterMap Node.text?)

theorem join_filterMap_cons {α : Type} (text? : α → Option String) (x : α) (rest : List α) :
    String.join ((x :: rest).filterMap text?) =
      (text? x).getD "" ++ String.join (rest.filterMap text?) := by
  rw [List.filterMap_cons]
  cases text? x <;> simp

theorem Node.reachedOf_eq_flatMap (ns : List Node) : reachedOf ns = ns.flatMap reached := by
  induction ns with
  | nil => rfl
  | cons n rest ih => rw [reachedOf, ih, List.flatMap_cons]

theorem Node.reached_eq (n : Node) : n.reached = n ::
    if (Element.ofType? n.type).any Element.holdsChildren then n.children.flatMap Node.reached
    else [] := by
  obtain ⟨type, tag, content, info, attrs, data, children⟩ := n
  rw [reached, reachedOf_eq_flatMap]

theorem reachedText_cons (n : Node) (rest : List Node) :
    reachedText (n :: rest) = reachedText [n] ++ reachedText rest := by
  simp only [reachedText, Node.reachedOf, List.append_nil, List.filterMap_append,
    String.join_append]

theorem reachedText_singleton (n : Node) : reachedText [n] = n.text?.getD "" ++
    if (Element.ofType? n.type).any Element.holdsChildren then reachedText n.children else "" := by
  obtain ⟨type, tag, content, info, attrs, data, children⟩ := n
  rw [reachedText, Node.reachedOf, Node.reachedOf, List.append_nil, Node.reached,
    join_filterMap_cons]
  split <;> rfl

theorem textOf_append (cs ds : List Content) : textOf (cs ++ ds) = textOf cs ++ textOf ds := by
  rw [textOf, Content.nodesOf_append, List.filterMap_append, String.join_append, textOf, textOf]

theorem textOf_singleton (c : Content) :
    textOf [c] = c.text?.getD "" ++ textOf c.children := by
  rw [textOf, Content.nodesOf, Content.nodesOf, List.append_nil, Content.nodes_eq,
    join_filterMap_cons, textOf]

theorem textOf_text_cons (value : String) (cs : List Content) :
    textOf (.text value :: cs) = value ++ textOf cs :=
  join_filterMap_cons Content.text? (.text value) (Content.nodesOf cs)

theorem textOf_joinFront (c : Content) (cs : List Content) :
    textOf (joinFront c cs) = textOf (c :: cs) := by
  fun_cases joinFront c cs with
  | case1 a b more =>
    rw [textOf_text_cons, textOf_text_cons, textOf_text_cons, String.append_assoc]
  | case2 c cs _ => rfl

theorem textOf_joinTexts (cs : List Content) : textOf (joinTexts cs) = textOf cs := by
  induction cs with
  | nil => rfl
  | cons c rest ih =>
    rw [joinTexts_cons, textOf_joinFront, ← List.singleton_append, textOf_append, ih,
      ← textOf_append, List.singleton_append]

theorem tidy_joinFront {c : Content} {cs : List Content} (hc : c.text? ≠ some "")
    (h : Tidy cs) : Tidy (joinFront c cs) := by
  fun_cases joinFront c cs with
  | case1 a b more =>
    obtain ⟨-, hmore⟩ := List.forall_mem_cons.mp h.nonempty
    refine ⟨List.forall_mem_cons.mpr ⟨?_, hmore⟩, ?_⟩
    · simp_all [Content.text?]
    · -- A text stands well before the same nodes as another one.
      simpa [Content.text?, List.isChain_cons] using h.apart
  | case2 c cs hapart =>
    refine ⟨List.forall_mem_cons.mpr ⟨hc, h.nonempty⟩, List.isChain_cons.mpr ⟨?_, h.apart⟩⟩
    intro d hd
    obtain ⟨more, rfl⟩ := List.head?_eq_some_iff.mp hd
    cases htext : c.text? with
    | none => exact .inl rfl
    | some a =>
      refine .inr (Option.eq_none_iff_forall_ne_some.mpr fun b hb => ?_)
      exact hapart a b more (Content.text?_eq_some_iff.mp htext)
        (congrArg (· :: more) (Content.text?_eq_some_iff.mp hb))

theorem tidy_joinTexts {cs : List Content} (h : ∀ c ∈ cs, c.text? ≠ some "") :
    Tidy (joinTexts cs) := by
  induction cs with
  | nil => exact .nil
  | cons c rest ih =>
    obtain ⟨hc, hrest⟩ := List.forall_mem_cons.mp h
    rw [joinTexts_cons]
    exact tidy_joinFront hc (ih hrest)

def TidyBelow (cs : List Content) : Prop :=
  ∀ c ∈ Content.nodesOf cs, Tidy c.children

theorem tidyBelow_append_iff {cs ds : List Content} :
    TidyBelow (cs ++ ds) ↔ TidyBelow cs ∧ TidyBelow ds := by
  rw [TidyBelow, Content.nodesOf_append, List.forall_mem_append, TidyBelow, TidyBelow]

theorem tidyBelow_singleton_iff {c : Content} :
    TidyBelow [c] ↔ Tidy c.children ∧ TidyBelow c.children := by
  rw [TidyBelow, Content.nodesOf, Content.nodesOf, List.append_nil, Content.nodes_eq,
    List.forall_mem_cons, TidyBelow]

theorem tidyBelow_leaf (l : Source.Leaf) : TidyBelow [.leaf l] :=
  tidyBelow_singleton_iff.mpr ⟨.nil, by simp [TidyBelow, Content.children, Content.nodesOf]⟩

theorem tidyBelow_cons_iff {c : Content} {cs : List Content} :
    TidyBelow (c :: cs) ↔ TidyBelow [c] ∧ TidyBelow cs := by
  rw [← List.singleton_append, tidyBelow_append_iff]

theorem tidyBelow_joinFront {c : Content} {cs : List Content} (h : TidyBelow (c :: cs)) :
    TidyBelow (joinFront c cs) := by
  fun_cases joinFront c cs with
  | case1 a b more =>
    have hmore := (tidyBelow_cons_iff.mp (tidyBelow_cons_iff.mp h).2).2
    exact tidyBelow_cons_iff.mpr ⟨tidyBelow_leaf _, hmore⟩
  | case2 c cs _ => exact h

theorem tidyBelow_joinTexts {cs : List Content} (h : TidyBelow cs) :
    TidyBelow (joinTexts cs) := by
  induction cs with
  | nil => exact h
  | cons c rest ih =>
    obtain ⟨hc, hrest⟩ := tidyBelow_cons_iff.mp h
    rw [joinTexts_cons]
    exact tidyBelow_joinFront (tidyBelow_cons_iff.mpr ⟨hc, ih hrest⟩)

/-- Nodes with the given text, of which none is empty, and with tidy children. Texts among them
may still stand next to each other. -/
structure Conveys (value : String) (cs : List Content) : Prop where
  nonempty : ∀ c ∈ cs, c.text? ≠ some ""
  below : TidyBelow cs
  text : textOf cs = value

namespace Conveys

theorem nil : Conveys "" [] where
  nonempty := by simp
  below := by simp [TidyBelow, Content.nodesOf]
  text := rfl

theorem append {value value' : String} {cs ds : List Content} (hcs : Conveys value cs)
    (hds : Conveys value' ds) : Conveys (value ++ value') (cs ++ ds) where
  nonempty := List.forall_mem_append.mpr ⟨hcs.nonempty, hds.nonempty⟩
  below := tidyBelow_append_iff.mpr ⟨hcs.below, hds.below⟩
  text := by rw [textOf_append, hcs.text, hds.text]

theorem leaf {l : Source.Leaf} (h : (Content.leaf l).text? ≠ some "") :
    Conveys ((Content.leaf l).text?.getD "") [.leaf l] where
  nonempty := by simpa using h
  below := tidyBelow_leaf l
  text := by
    rw [textOf_singleton]
    exact String.append_empty

theorem silent {l : Source.Leaf} (h : (Content.leaf l).text? = none) :
    Conveys "" [.leaf l] := by
  have hleaf := Conveys.leaf (h.trans_ne nofun)
  rwa [h] at hleaf

theorem parent (p : Source.Parent) {value : String} {cs : List Content} (htidy : Tidy cs)
    (h : Conveys value cs) : Conveys value [.parent p cs] where
  nonempty := by simp [Content.text?]
  below := tidyBelow_singleton_iff.mpr ⟨htidy, h.below⟩
  text := by
    rw [textOf_singleton, ← h.text]
    exact String.empty_append

theorem joined {value : String} {cs : List Content} (h : Conveys value cs) :
    Tidy (joinTexts cs) ∧ Conveys value (joinTexts cs) := by
  have htidy := tidy_joinTexts h.nonempty
  exact ⟨htidy, htidy.nonempty, tidyBelow_joinTexts h.below, (textOf_joinTexts cs).trans h.text⟩

end Conveys

namespace Build

variable {α β : Type}

def Gives (x : Build α) (good : α → Prop) : Prop :=
  ∀ log a, (x log).1 = .ok a → good a

theorem Gives.pure {good : α → Prop} {a : α} (h : good a) : Gives (pure a) good := by
  rintro log _ ⟨⟩
  exact h

theorem Gives.any (x : Build α) : Gives x fun _ => True :=
  fun _ _ _ => trivial

theorem Gives.lift {x : Except BuildError α} {good : α → Prop} (h : ∀ a, x = .ok a → good a) :
    Gives (liftM x) good :=
  fun _ a hrun => h a hrun

theorem Gives.bind {x : Build α} {f : α → Build β} {good : α → Prop} {good' : β → Prop}
    (hx : Gives x good) (hf : ∀ a, good a → Gives (f a) good') : Gives (x >>= f) good' := by
  intro log b h
  have ha := hx log
  rw [run_bind] at h
  rcases hrun : x log with ⟨result, log'⟩
  rw [hrun] at h ha
  cases result with
  | error e => cases h
  | ok a => exact hf a (ha a rfl) log' b h

end Build

open Build (Gives)

def Element.text? (n : Node) : Element → Option String
  | text => some n.content
  | softBreak => some "\n"
  | _ => none

theorem Element.type_of_text {type : String} (h : ofType? type = some .text) :
    type ∈ textTypes := by
  unfold ofType? at h
  split at h <;> first | decide | cases h

theorem Element.type_of_softBreak {type : String} (h : ofType? type = some .softBreak) :
    type = "softbreak" := by
  unfold ofType? at h
  split at h <;> first | rfl | cases h

theorem Node.text?_eq (n : Node) : n.text? = (Element.ofType? n.type).bind (Element.text? n) := by
  by_cases htext : n.type ∈ textTypes
  · rw [Node.text?, if_pos htext, ofType?_text _ htext]
    rfl
  · by_cases hbreak : n.type = "softbreak"
    · rw [Node.text?, if_neg htext, if_pos hbreak, hbreak]
      rfl
    · rw [Node.text?, if_neg htext, if_neg hbreak]
      cases he : Element.ofType? n.type with
      | none => rfl
      | some e =>
        cases e with
        | text => exact absurd (Element.type_of_text he) htext
        | softBreak => exact absurd (Element.type_of_softBreak he) hbreak
        | _ => rfl

theorem wrap_gives (p : Source.Parent) {below : Build (List Content)} {value : String}
    (h : below.Gives fun cs => Tidy cs ∧ Conveys value cs) :
    (wrap p below).Gives (Conveys value) :=
  h.bind fun _ hcs => .pure (.parent p hcs.1 hcs.2)

theorem Element.build_holding {e : Element} (hholds : e.holdsChildren) (n : Node)
    {below : Build (List Content)} {value : String}
    (h : below.Gives fun cs => Tidy cs ∧ Conveys value cs) :
    (e.build n below).Gives (Conveys value) := by
  cases e with
  | heading =>
    refine (Gives.any _).bind fun level _ => h.bind fun cs hcs => ?_
    exact (Gives.any _).bind fun depth _ => .pure (.parent _ hcs.1 hcs.2)
  | orderedList => exact (Gives.any _).bind fun start _ => wrap_gives _ h
  | footnote =>
    refine (Gives.any _).bind fun identifier _ => h.bind fun cs hcs => ?_
    exact (Gives.any _).bind fun label _ => .pure (.parent _ hcs.1 hcs.2)
  | group => exact fun log cs hrun => (h log cs hrun).2
  | link =>
    refine h.bind fun cs hcs => ?_
    exact (Gives.any _).bind fun p _ => .pure (.parent p hcs.1 hcs.2)
  | paragraph | blockquote | bulletList | listItem | table | tableRow | tableCell | emphasis
  | strong | delete => exact wrap_gives _ h
  | _ => cases hholds

theorem imageOf_eq_ok {alt : String} {attrs data : List (String × Json)} {l : Source.Leaf}
    (h : imageOf alt attrs data = .ok l) :
    (∃ identifier label, l = .imageReference identifier label (some alt)) ∨
      ∃ url title, l = .image url title (some alt) := by
  unfold imageOf at h
  split at h
  · next label _ =>
    cases hid : identifierOf label with
    | error e => rw [hid] at h; cases h
    | ok identifier => rw [hid] at h; cases h; exact .inl ⟨_, _, rfl⟩
  · cases h; exact .inr ⟨_, _, rfl⟩

theorem imageOf_text? {alt : String} {attrs data : List (String × Json)} {l : Source.Leaf}
    (h : imageOf alt attrs data = .ok l) : (Content.leaf l).text? = none := by
  rcases imageOf_eq_ok h with ⟨_, _, rfl⟩ | ⟨_, _, rfl⟩ <;> rfl

theorem Element.build_own {e : Element} (hholds : e.holdsChildren = false) (n : Node)
    (below : Build (List Content)) :
    (e.build n below).Gives (Conveys ((e.text? n).getD "")) := by
  cases e with
  | text =>
    rw [Element.build, Element.text?]
    split
    · next hempty =>
      rw [String.isEmpty_iff.mp hempty]
      exact .pure .nil
    · next hempty =>
      have hvalue : (Content.text n.content).text? ≠ some "" := by
        simpa [Content.text?] using hempty
      exact .pure (.leaf hvalue)
  | softBreak => exact .pure (.leaf (l := .text "\n") (by simp [Content.text?]))
  | definition => exact (Gives.any _).bind fun d _ => .pure (.silent rfl)
  | image =>
    exact (Gives.lift fun _ => imageOf_text?).bind fun l hl => .pure (.silent hl)
  | footnoteReference =>
    refine (Gives.any _).bind fun identifier _ => (Gives.any _).bind fun label _ => ?_
    exact .pure (.silent rfl)
  | fence | codeBlock | thematicBreak | hardBreak | inlineCode => exact .pure (.silent rfl)
  | anchor => exact .pure .nil
  | _ => cases hholds

theorem Element.text?_of_holding {e : Element} (hholds : e.holdsChildren) (n : Node) :
    e.text? n = none := by
  cases e with
  | text | softBreak => cases hholds
  | _ => rfl

theorem buildNodes_gives {ns : List Node}
    (h : ∀ n ∈ ns, (buildNode n).Gives (Conveys (reachedText [n]))) :
    (buildNodes ns).Gives (Conveys (reachedText ns)) := by
  induction ns with
  | nil => exact .pure .nil
  | cons n rest ih =>
    obtain ⟨hn, hrest⟩ := List.forall_mem_cons.mp h
    rw [buildNodes, reachedText_cons]
    exact hn.bind fun first hfirst => (ih hrest).bind fun others hothers =>
      .pure (hfirst.append hothers)

theorem buildJoined_gives_of {ns : List Node}
    (h : ∀ n ∈ ns, (buildNode n).Gives (Conveys (reachedText [n]))) :
    (buildJoined ns).Gives fun cs => Tidy cs ∧ Conveys (reachedText ns) cs :=
  (buildNodes_gives h).bind fun _ hcs => .pure hcs.joined

theorem buildNode_gives (n : Node) : (buildNode n).Gives (Conveys (reachedText [n])) := by
  induction n using Node.induction with
  | step n ih =>
    rw [buildNode_eq, reachedText_singleton, Node.text?_eq]
    cases Element.ofType? n.type with
    | none => exact (Gives.any _).bind fun _ _ => .pure .nil
    | some e =>
      cases hholds : e.holdsChildren with
      | true =>
        rw [Option.bind_some, Element.text?_of_holding hholds, Option.any_some, hholds, if_pos rfl]
        have hbelow := Element.build_holding hholds n (buildJoined_gives_of ih)
        rwa [Option.getD_none, String.empty_append]
      | false =>
        rw [Option.bind_some, Option.any_some, hholds, if_neg Bool.false_ne_true,
          String.append_empty]
        exact Element.build_own hholds n _

theorem buildJoined_gives (ns : List Node) :
    (buildJoined ns).Gives fun cs => Tidy cs ∧ Conveys (reachedText ns) cs :=
  buildJoined_gives_of fun n _ => buildNode_gives n

/-- A tree that is built is tidy at every depth, and its texts are those of the syntax tree that
building comes to, in the same order. -/
theorem build_texts {root : Node} {tree : Source.Node} (h : (build root).1 = .ok tree) :
    (∀ m ∈ tree.nodes, Tidy m.children) ∧
      String.join (tree.nodes.filterMap Source.Node.text?) =
        String.join ((root.children.flatMap Node.reached).filterMap Node.text?) := by
  rw [build_answer] at h
  cases hrun : (buildJoined root.children []).1 with
  | error e => rw [hrun] at h; cases h
  | ok cs =>
    rw [hrun] at h
    cases h
    obtain ⟨htidy, hconveys⟩ := buildJoined_gives root.children [] cs hrun
    constructor
    · intro m hm
      rw [Source.Node.nodes, List.mem_cons, List.mem_map] at hm
      rcases hm with rfl | ⟨c, hc, rfl⟩
      · exact htidy
      · exact hconveys.below c hc
    · rw [← Node.reachedOf_eq_flatMap, Source.Node.nodes, join_filterMap_cons, List.filterMap_map]
      exact String.empty_append.trans hconveys.text

def captionedLine : Node :=
  { type := "root", children := [paragraph [textNode "a", { type := "softbreak" }, textNode "",
    { type := "em", children := [textNode "b", textNode "c"] },
    { type := "image", children := [textNode "d"] },
    { type := "html_inline", children := [textNode "e"] }, textNode "f"]] }

def captionedTree : Source.Node :=
  .root [.parent .paragraph [.text "a\n", .parent .emphasis [.text "bc"],
    .leaf (.image "" none (some "d")), .text "f"]]

theorem captionedLine_texts :
    (build captionedLine).1 = .ok captionedTree ∧
      (∀ m ∈ captionedTree.nodes, Tidy m.children) ∧
      String.join (captionedTree.nodes.filterMap Source.Node.text?) =
        String.join ((captionedLine.children.flatMap Node.reached).filterMap Node.text?) ∧
      String.join (captionedTree.nodes.filterMap Source.Node.text?) = "a\nbcf" := by
  have hbuild : (build captionedLine).1 = .ok captionedTree := rfl
  obtain ⟨htidy, htexts⟩ := build_texts hbuild
  exact ⟨hbuild, htidy, htexts, by decide⟩

end Markup

end RichMarkdown
