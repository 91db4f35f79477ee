import Std.Data.String.ToInt
import RichMarkdown.Proofs.Markup.Labels
import RichMarkdown.Proofs.Markup.Texts

/-! Footnotes of a syntax tree, and those of the source tree that is built from it. The parts of one
footnote have the same identifier. Those of two footnotes have different identifiers, unless the one
has no label and its number is the label of the other. -/
namespace RichMarkdown

open Source (Content normalizeIdentifier)

namespace Source

inductive Note where
  | reference (identifier : String)
  | definition (identifier : String)
  deriving DecidableEq

def Note.identifier : Note → String
  | reference identifier => identifier
  | definition identifier => identifier

def Content.note? : Content → Option Note
  | .leaf (.footnoteReference identifier _) => some (.reference identifier)
  | .parent (.footnoteDefinition identifier _) _ => some (.definition identifier)
  | _ => none

def Node.note? : Node → Option Note
  | root _ => none
  | content c => c.note?

def notesOf (cs : List Content) : List Note :=
  (Content.nodesOf cs).filterMap Content.note?

theorem notesOf_append (cs ds : List Content) : notesOf (cs ++ ds) = notesOf cs ++ notesOf ds := by
  rw [notesOf, Content.nodesOf_append, List.filterMap_append, notesOf, notesOf]

theorem notesOf_singleton (c : Content) :
    notesOf [c] = c.note?.toList ++ notesOf c.children := by
  rw [notesOf, Content.nodesOf, Content.nodesOf, List.append_nil, Content.nodes_eq,
    List.filterMap_cons, notesOf]
  cases c.note? <;> rfl

theorem notesOf_text_cons (value : String) (cs : List Content) :
    notesOf (.text value :: cs) = notesOf cs := by
  rw [← List.singleton_append, notesOf_append, notesOf_singleton]
  rfl

end Source

namespace Markup

open Source (Note notesOf notesOf_append notesOf_singleton notesOf_text_cons)
open Build (Gives)

theorem notesOf_joinFront (c : Content) (cs : List Content) :
    notesOf (joinFront c cs) = notesOf (c :: cs) := by
  fun_cases joinFront c cs with
  | case1 a b more => rw [notesOf_text_cons, notesOf_text_cons, notesOf_text_cons]
  | case2 c cs _ => rfl

theorem notesOf_joinTexts (cs : List Content) : notesOf (joinTexts cs) = notesOf cs := by
  induction cs with
  | nil => rfl
  | cons c rest ih =>
    rw [joinTexts_cons, notesOf_joinFront, ← List.singleton_append, notesOf_append, ih,
      ← notesOf_append, List.singleton_append]

def Element.isNote : Element → Bool
  | footnote | footnoteReference => true
  | _ => false

def Element.note? (n : Node) : Element → Option Note
  | footnote => (footnoteIdentifier n.data).toOption.map .definition
  | footnoteReference => (footnoteIdentifier n.data).toOption.map .reference
  | _ => none

namespace Node

def isNote (n : Node) : Bool :=
  (Element.ofType? n.type).any Element.isNote

def note? (n : Node) : Option Note :=
  (Element.ofType? n.type).bind (Element.note? n)

def label? (n : Node) : Option String :=
  match given? "label" n.data with
  | some (.str s) => some s
  | _ => none

def number? (n : Node) : Option Int :=
  match Entries.get? "id" n.data with
  | some (.int k) => some k
  | _ => none

def name (n : Node) (number : Int) : String :=
  (n.label?.map normalizeIdentifier).getD (toString number)

/-- The parts of footnotes that building a tree comes to. -/
def notes (root : Node) : List Node :=
  (root.children.flatMap Node.reached).filter isNote

/-- Footnotes are told apart by their numbers. The parts of one footnote have the same label or
none, and labels of different footnotes have different identifiers. -/
structure Numbered (root : Node) : Prop where
  number : ∀ n ∈ root.notes, n.number?.isSome
  label : ∀ n ∈ root.notes, ∀ m ∈ root.notes, n.number? = m.number? → n.label? = m.label?
  apart : ∀ n ∈ root.notes, ∀ m ∈ root.notes, ∀ a ∈ n.label?, ∀ b ∈ m.label?,
    normalizeIdentifier a = normalizeIdentifier b → n.number? = m.number?

/-- The identifier of a label is the number of a part that has no label. -/
def Mistakable (labelled numbered : Node) : Prop :=
  ∃ label k, labelled.label? = some label ∧ numbered.label? = none ∧
    numbered.number? = some k ∧ normalizeIdentifier label = toString k

end Node

def noteAnswers (ns : List Node) : List (Option Note) :=
  ((ns.flatMap Node.reached).filter Node.isNote).map Node.note?

theorem noteAnswers_cons (n : Node) (rest : List Node) :
    noteAnswers (n :: rest) = noteAnswers [n] ++ noteAnswers rest := by
  simp [noteAnswers]

def Element.noteAnswer (n : Node) (e : Element) : List (Option Note) :=
  if e.isNote then [e.note? n] else []

theorem noteAnswers_singleton {n : Node} {e : Element} (he : Element.ofType? n.type = some e) :
    noteAnswers [n] = e.noteAnswer n ++ if e.holdsChildren then noteAnswers n.children else [] := by
  have hnote : n.isNote = e.isNote := by rw [Node.isNote, he, Option.any_some]
  have hanswer : n.note? = e.note? n := by rw [Node.note?, he, Option.bind_some]
  rw [noteAnswers, List.flatMap_singleton, Node.reached_eq, he, Option.any_some, List.filter_cons,
    hnote, Element.noteAnswer, ← hanswer]
  by_cases hown : e.isNote <;> by_cases hholds : e.holdsChildren <;>
    simp [hown, hholds, noteAnswers]

def Bears (answers : List (Option Note)) (cs : List Content) : Prop :=
  (notesOf cs).map some = answers

theorem Bears.append {answers answers' : List (Option Note)} {cs ds : List Content}
    (hcs : Bears answers cs) (hds : Bears answers' ds) : Bears (answers ++ answers') (cs ++ ds) := by
  rw [Bears, notesOf_append, List.map_append, hcs, hds]

theorem Bears.joined {answers : List (Option Note)} {cs : List Content} (h : Bears answers cs) :
    Bears answers (joinTexts cs) := by
  rw [Bears, notesOf_joinTexts, h]

theorem Bears.parent {p : Source.Parent} {cs : List Content} (hp : (Content.parent p cs).note? = none)
    {answers : List (Option Note)} (h : Bears answers cs) : Bears answers [.parent p cs] := by
  rw [Bears, notesOf_singleton, hp]
  exact h

theorem wrap_bears {p : Source.Parent} (hp : ∀ cs, (Content.parent p cs).note? = none)
    {below : Build (List Content)} {answers : List (Option Note)} (h : below.Gives (Bears answers)) :
    (wrap p below).Gives (Bears answers) :=
  h.bind fun cs hcs => .pure (.parent (hp cs) hcs)

theorem linkOf_note? {attrs data : List (String × Json)} {p : Source.Parent}
    (h : linkOf attrs data = .ok p) (cs : List Content) : (Content.parent p cs).note? = none := by
  unfold linkOf at h
  split at h
  · next label _ =>
    cases hid : identifierOf label with
    | error e => rw [hid] at h; cases h
    | ok identifier => rw [hid] at h; cases h; rfl
  · cases h; rfl

theorem imageOf_note? {alt : String} {attrs data : List (String × Json)} {l : Source.Leaf}
    (h : imageOf alt attrs data = .ok l) : (Content.leaf l).note? = none := by
  rcases imageOf_eq_ok h with ⟨_, _, rfl⟩ | ⟨_, _, rfl⟩ <;> rfl

theorem Bears.leaf {l : Source.Leaf} (h : (Content.leaf l).note? = none) : Bears [] [.leaf l] := by
  rw [Bears, notesOf_singleton, h]
  rfl

theorem bears_textNodes (value : String) : Bears [] (textNodes value) := by
  unfold textNodes
  split
  · rfl
  · exact .leaf rfl

theorem Element.build_bears (e : Element) (n : Node) {below : Build (List Content)}
    {answers : List (Option Note)} (h : below.Gives (Bears answers)) :
    (e.build n below).Gives
      (Bears (e.noteAnswer n ++ if e.holdsChildren then answers else [])) := by
  cases e with
  | heading =>
    refine (Gives.any _).bind fun level _ => h.bind fun cs hcs => ?_
    exact (Gives.any _).bind fun depth _ => .pure (.parent rfl hcs)
  | orderedList => exact (Gives.any _).bind fun start _ => wrap_bears (fun _ => rfl) h
  | definition => exact (Gives.any _).bind fun d _ => .pure rfl
  | footnote =>
    refine (Gives.lift fun _ hid => hid).bind fun identifier hid => h.bind fun cs hcs => ?_
    refine (Gives.any _).bind fun label _ => .pure ?_
    have hanswer : Element.footnote.noteAnswer n = [some (.definition identifier)] := by
      simp [noteAnswer, isNote, note?, hid, Except.toOption]
    rw [hanswer, Bears, notesOf_singleton, List.map_append]
    exact congrArg (some (.definition identifier) :: ·) hcs
  | group => exact h
  | text => exact .pure (bears_textNodes n.content)
  | link =>
    exact h.bind fun cs hcs => (Gives.lift fun _ => linkOf_note?).bind fun p hp =>
      .pure (.parent (hp cs) hcs)
  | image => exact (Gives.lift fun _ => imageOf_note?).bind fun l hl => .pure (.leaf hl)
  | footnoteReference =>
    refine (Gives.lift fun _ hid => hid).bind fun identifier hid => ?_
    refine (Gives.any _).bind fun label _ => .pure ?_
    have hanswer : Element.footnoteReference.noteAnswer n = [some (.reference identifier)] := by
      simp [noteAnswer, isNote, note?, hid, Except.toOption]
    rw [hanswer]
    rfl
  | paragraph | blockquote | bulletList | listItem | table | tableRow | tableCell | emphasis
  | strong | delete => exact wrap_bears (fun _ => rfl) h
  | _ => exact .pure rfl

theorem buildJoined_bears {ns : List Node}
    (h : ∀ n ∈ ns, (buildNode n).Gives (Bears (noteAnswers [n]))) :
    (buildJoined ns).Gives (Bears (noteAnswers ns)) := by
  have hnodes : (buildNodes ns).Gives (Bears (noteAnswers ns)) := by
    induction ns with
    | nil => exact .pure rfl
    | cons n rest ih =>
      obtain ⟨hn, hrest⟩ := List.forall_mem_cons.mp h
      rw [noteAnswers_cons]
      exact hn.bind fun first hfirst => (ih hrest).bind fun others hothers =>
        .pure (hfirst.append hothers)
  exact hnodes.bind fun cs hcs => .pure hcs.joined

theorem buildNode_bears (n : Node) : (buildNode n).Gives (Bears (noteAnswers [n])) := by
  induction n using Node.induction with
  | step n ih =>
    rw [buildNode_eq]
    cases he : Element.ofType? n.type with
    | none =>
      have hnone : noteAnswers [n] = [] := by
        simp [noteAnswers, Node.reached_eq, Node.isNote, he]
      rw [hnone]
      exact (Gives.any _).bind fun _ _ => .pure rfl
    | some e =>
      rw [noteAnswers_singleton he]
      exact Element.build_bears e n (buildJoined_bears ih)

theorem build_notes {root : Node} {tree : Source.Node} (h : (build root).1 = .ok tree) :
    root.notes.map Node.note? = (tree.nodes.filterMap Source.Node.note?).map some := by
  rw [build_answer] at h
  cases hrun : (buildJoined root.children []).1 with
  | error e => rw [hrun] at h; cases h
  | ok cs =>
    rw [hrun] at h
    cases h
    have hbears := buildJoined_bears (fun n _ => buildNode_bears n) [] cs hrun
    rw [Source.Node.nodes, List.filterMap_cons, List.filterMap_map]
    exact hbears.symm

theorem get?_of_number? {n : Node} {k : Int} (h : n.number? = some k) :
    Entries.get? "id" n.data = some (.int k) := by
  unfold Node.number? at h
  split at h
  · next j hj => rw [hj, Option.some.inj h]
  · cases h

theorem footnoteIdentifier_eq {n : Node} {identifier : String}
    (h : footnoteIdentifier n.data = .ok identifier) {k : Int} (hk : n.number? = some k) :
    identifier = n.name k := by
  unfold footnoteIdentifier at h
  unfold Node.name Node.label?
  cases hlabel : given? "label" n.data with
  | none =>
    rw [hlabel, get?_of_number? hk] at h
    cases h
    rfl
  | some label =>
    rw [hlabel] at h
    cases label with
    | str s =>
      cases h
      rfl
    | _ => cases h

theorem identifier_of_note? {n : Node} {note : Note} (h : n.note? = some note) {k : Int}
    (hk : n.number? = some k) :
    note.identifier = n.name k := by
  have hread : ∀ {identifier}, (footnoteIdentifier n.data).toOption = some identifier →
      identifier = n.name k := by
    intro identifier hid
    cases hrun : footnoteIdentifier n.data with
    | error e => rw [hrun] at hid; cases hid
    | ok made =>
      rw [hrun] at hid
      cases hid
      exact footnoteIdentifier_eq hrun hk
  obtain ⟨e, -, hnote⟩ := Option.bind_eq_some_iff.mp h
  cases e with
  | footnote | footnoteReference =>
    obtain ⟨identifier, hid, rfl⟩ := Option.map_eq_some_iff.mp hnote
    exact hread hid
  | _ => cases hnote

namespace Node

theorem mistakable_iff_of_labelled {n m : Node} {a : String} {k : Int} (hn : n.label? = some a)
    (hm : m.label? = none) (hk : m.number? = some k) :
    n.Mistakable m ↔ normalizeIdentifier a = toString k := by
  simp [Mistakable, hn, hm, hk]

theorem not_mistakable_of_unlabelled {n m : Node} (hn : n.label? = none) : ¬n.Mistakable m := by
  simp [Mistakable, hn]

theorem not_mistakable_of_labelled {n m : Node} {b : String} (hm : m.label? = some b) :
    ¬n.Mistakable m := by
  simp [Mistakable, hm]

/-- Two labels are compared as labels and two numbers as numbers. Only a label and a number can be
mistaken for each other. -/
theorem name_eq_iff {n m : Node} {k l : Int} (hk : n.number? = some k) (hl : m.number? = some l)
    (hsame : k = l → n.label? = m.label?)
    (hapart : ∀ a ∈ n.label?, ∀ b ∈ m.label?, normalizeIdentifier a = normalizeIdentifier b → k = l) :
    n.name k = m.name l ↔ k = l ∨ n.Mistakable m ∨ m.Mistakable n := by
  cases hn : n.label? with
  | none =>
    have hnm : ¬n.Mistakable m := not_mistakable_of_unlabelled hn
    cases hm : m.label? with
    | none =>
      have hmn : ¬m.Mistakable n := not_mistakable_of_unlabelled hm
      simp only [name, hn, hm, hnm, hmn, or_false]
      exact Int.repr_inj
    | some b =>
      have hdiffer : k ≠ l := fun heq => by simpa [hn, hm] using hsame heq
      have hmn : m.Mistakable n ↔ normalizeIdentifier b = toString k :=
        mistakable_iff_of_labelled hm hn hk
      simp only [name, hn, hm, hnm, hmn, hdiffer, false_or]
      exact eq_comm
  | some a =>
    have hmn : ¬m.Mistakable n := not_mistakable_of_labelled hn
    cases hm : m.label? with
    | none =>
      have hdiffer : k ≠ l := fun heq => by simpa [hn, hm] using hsame heq
      have hnm : n.Mistakable m ↔ normalizeIdentifier a = toString l :=
        mistakable_iff_of_labelled hn hm hl
      simp only [name, hn, hm, hnm, hmn, hdiffer, false_or, or_false]
      exact Iff.rfl
    | some b =>
      have hnm : ¬n.Mistakable m := not_mistakable_of_labelled hm
      simp only [hnm, hmn, or_false]
      constructor
      · intro heq
        simp only [name, hn, hm] at heq
        exact hapart a hn b hm heq
      · intro heq
        rw [name, name, hsame heq, hm]
        rfl

end Node

/-- A reference and a definition of numbered footnotes have the same identifier just when they have
the same number, unless the label of the one is taken for the number of the other. The footnotes of
the source tree are those of the syntax tree, in order, with these identifiers. -/
theorem footnotes_match_iff {root : Node} {tree : Source.Node} (h : root.Numbered)
    (hbuilt : (build root).1 = .ok tree) :
    root.notes.map Node.note? = (tree.nodes.filterMap Source.Node.note?).map some ∧
    ∀ n ∈ root.notes, ∀ m ∈ root.notes, ∀ i j,
      n.note? = some (.reference i) → m.note? = some (.definition j) →
        (i = j ↔ n.number? = m.number? ∨ n.Mistakable m ∨ m.Mistakable n) := by
  refine ⟨build_notes hbuilt, fun n hn m hm i j hi hj => ?_⟩
  obtain ⟨k, hk⟩ := Option.isSome_iff_exists.mp (h.number n hn)
  obtain ⟨l, hl⟩ := Option.isSome_iff_exists.mp (h.number m hm)
  have hi : i = n.name k := identifier_of_note? hi hk
  have hj : j = m.name l := identifier_of_note? hj hl
  have hsame := h.label n hn m hm
  have hapart := h.apart n hn m hm
  rw [hk, hl, Option.some.injEq] at hsame
  simp only [hk, hl, Option.some.injEq] at hapart
  rw [hi, hj, hk, hl, Option.some.injEq]
  exact Node.name_eq_iff hk hl hsame hapart

def noteNode (type : String) (number : Int) (label : Option String) : Node :=
  { type, data := ("id", .int number) :: (label.map fun s => ("label", Json.str s)).toList }

def annotations (label : String) : Node :=
  { type := "root", children := [noteNode "footnote_ref" 0 (some label),
    noteNode "footnote_ref" 1 none, { type := "footnote_block", children :=
      [noteNode "footnote" 0 (some label), noteNode "footnote" 1 none] }] }

theorem notes_annotations (label : String) : (annotations label).notes =
    [noteNode "footnote_ref" 0 (some label), noteNode "footnote_ref" 1 none,
      noteNode "footnote" 0 (some label), noteNode "footnote" 1 none] :=
  rfl

theorem number?_noteNode (type : String) (number : Int) (label : Option String) :
    (noteNode type number label).number? = some number :=
  rfl

theorem label?_noteNode_none (type : String) (number : Int) :
    (noteNode type number none).label? = none :=
  rfl

theorem label?_noteNode_some (type : String) (number : Int) {label : String} (h : label ≠ "") :
    (noteNode type number (some label)).label? = some label := by
  have hgiven : given? "label" (noteNode type number (some label)).data = some (.str label) :=
    Option.filter_eq_some_iff.mpr ⟨rfl, by simpa [Json.isTruthy] using h⟩
  rw [Node.label?, hgiven]

theorem annotations_numbered {label : String} (h : label ≠ "") : (annotations label).Numbered := by
  have hlabel := fun type number => label?_noteNode_some type number h
  constructor <;> simp [notes_annotations, number?_noteNode, hlabel, label?_noteNode_none]

def annotatedTree (label identifier : String) : Source.Node :=
  .root [.leaf (.footnoteReference identifier (some label)), .leaf (.footnoteReference "1" none),
    .parent (.footnoteDefinition identifier (some label)) [],
    .parent (.footnoteDefinition "1" none) []]

theorem annotations_match :
    (annotations "Note").Numbered ∧
    (build (annotations "Note")).1 = .ok (annotatedTree "Note" "note") ∧
    ∀ n ∈ (annotations "Note").notes, ∀ m ∈ (annotations "Note").notes, ∀ i j,
      n.note? = some (.reference i) → m.note? = some (.definition j) →
        (i = j ↔ n.number? = m.number?) := by
  have hnumbered : (annotations "Note").Numbered := annotations_numbered (by decide)
  have hbuilt : (build (annotations "Note")).1 = .ok (annotatedTree "Note" "note") := by
    with_unfolding_all rfl
  have hclear : ∀ n ∈ (annotations "Note").notes, ∀ m ∈ (annotations "Note").notes,
      ¬n.Mistakable m := by
    have hname : normalizeIdentifier "Note" = "note" := by decide +kernel
    have hnumeral : "note" ≠ Int.repr 1 := by decide
    have hlabel := fun type number => label?_noteNode_some type number (by decide : "Note" ≠ "")
    simpa [notes_annotations, Node.Mistakable, number?_noteNode, hlabel, label?_noteNode_none,
      hname] using hnumeral
  refine ⟨hnumbered, hbuilt, fun n hn m hm i j hi hj => ?_⟩
  rw [(footnotes_match_iff hnumbered hbuilt).2 n hn m hm i j hi hj]
  simp only [hclear n hn m hm, hclear m hm n hn, or_false]

/-- The footnote with the label 1 comes first, so that the one without label has the number 1: a
reference to either has the identifier of both. -/
theorem numeral_mistaken :
    (annotations "1").Numbered ∧
    (build (annotations "1")).1 = .ok (annotatedTree "1" "1") ∧
    ∃ n ∈ (annotations "1").notes, ∃ m ∈ (annotations "1").notes,
      n.note? = some (.reference "1") ∧ m.note? = some (.definition "1") ∧
      n.number? ≠ m.number? := by
  refine ⟨annotations_numbered (by decide), by with_unfolding_all rfl, ?_⟩
  rw [notes_annotations]
  refine ⟨noteNode "footnote_ref" 0 (some "1"), by simp, noteNode "footnote" 1 none, by simp,
    ?_, ?_, by decide⟩
  · with_unfolding_all rfl
  · with_unfolding_all rfl

end Markup

end RichMarkdown
