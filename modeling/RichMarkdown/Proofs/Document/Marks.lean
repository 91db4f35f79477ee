import Mathlib.Data.List.Chain
import RichMarkdown.Proofs.Rule.Standard

/-! Where the marks of a document come from under standard rules. A chain of nodes that each mark
their first child puts its marks, outermost first, on what the chain leads to, and no other marks
are in a document but those of inline code. -/
namespace RichMarkdown

open Source (Content Leaf Parent Definition)
open Registry (firstClaim)

namespace Source.Node

variable (rules : List (String × Rule))

def firstChild? (n : Source.Node) : Option Source.Node :=
  n.children.head?.map .content

def IsMarking (n : Source.Node) : Prop :=
  ∃ name rule, firstClaim n.type rules = some (name, rule) ∧ rule.kind = .mark ∧
    rule.convert ≠ some Conversion.inlineCode

def IsInlineCode (n : Source.Node) : Prop :=
  ∃ name rule, firstClaim n.type rules = some (name, rule) ∧
    rule.convert = some Conversion.inlineCode

/-- The mark that a node puts on its first child: a link with its address, and any other mark by
the name of its rule alone. -/
inductive Gives (n : Source.Node) : Mark → Prop
  | link {name : String} {rule : Rule} {url : String} {title : Option String} {cs : List Content}
      (claimed : firstClaim n.type rules = some (name, rule))
      (convert : rule.convert = some Conversion.link)
      (shape : n = .content (.parent (.link url title) cs)) :
      Gives n { type := "link", attrs := some [("href", .str url)] }
  | named {name : String} {rule : Rule} (claimed : firstClaim n.type rules = some (name, rule))
      (kind : rule.kind = .mark) (convert : rule.convert = none) : Gives n { type := name }

end Source.Node

theorem Conversion.link_ne_inlineCode : Conversion.link ≠ Conversion.inlineCode := by
  intro h
  have htext := congrFun h (.content (.text ""))
  cases htext

theorem Rule.form_marking {rules : List (String × Rule)} {node : Source.Node} {name : String}
    {rule : Rule} (hfirst : firstClaim node.type rules = some (name, rule)) (hrule : rule.Standard)
    (hkind : rule.kind = .mark) (hother : rule.convert ≠ some Conversion.inlineCode)
    (sources : Entries Definition) :
    ∃ m, rule.form sources name node = .mark m ∧ node.Gives rules m := by
  cases hconvert : rule.convert with
  | none =>
    rw [form_of_none hconvert, if_pos hkind]
    exact ⟨_, rfl, .named hfirst hkind hconvert⟩
  | some conversion =>
    have hclaims := ((Registry.firstClaim_eq_some_iff node.type rules _).mp hfirst).1
    obtain ⟨known, hdefault, hform⟩ := hrule.default hclaims hconvert
    replace hform := hform sources name
    cases node with
    | root cs => cases hdefault; cases hkind
    | content c =>
      cases c with
      | leaf l =>
        cases l with
        | inlineCode value => cases hdefault; exact absurd rfl hother
        | _ => cases hdefault <;> cases hkind
      | parent p cs =>
        cases p with
        | link url title =>
          cases hdefault
          exact ⟨_, (Option.some.inj hform).symm, .link hfirst rfl rfl⟩
        | emphasis => cases hdefault; cases hconvert
        | strong => cases hdefault; cases hconvert
        | delete => cases hdefault; cases hconvert
        | _ => cases hdefault <;> cases hkind

/-- What a node that marks nothing becomes: a node without marks, code apart, around what its
children become, or around bare text where it has none. -/
structure DocNode.Encloses (rule : Rule) (node : Source.Node) (ds : List DocNode) (d : DocNode) :
    Prop where
  marks : d.marks = none ∨
    rule.convert = some Conversion.inlineCode ∧ d.marks = some [{ type := "code" }]
  content : d.content.getD [] = ds ∨
    node.children = [] ∧ ∀ t ∈ d.content.getD [], ∃ value, t = .ofText value

theorem DocNode.Encloses.bare {rule : Rule} {node : Source.Node} {ds : List DocNode} {d : DocNode}
    (hmarks : d.marks = none) (hcontent : d.content = none) (hds : ds.length = 0) :
    d.Encloses rule node ds := by
  refine ⟨.inl hmarks, .inl ?_⟩
  rw [hcontent, List.eq_nil_of_length_eq_zero hds]
  rfl

theorem Rule.form_block {rules : List (String × Rule)} {node : Source.Node} {name : String}
    {rule : Rule} (hfirst : firstClaim node.type rules = some (name, rule)) (hrule : rule.Standard)
    (hnode : rule.kind ≠ .mark ∨ rule.convert = some Conversion.inlineCode)
    (sources : Entries Definition) : ∃ make, rule.form sources name node = .block make ∧
      ∀ ds, ds.length = node.children.length → (make ds).Encloses rule node ds := by
  cases hconvert : rule.convert with
  | none =>
    have hkind : rule.kind ≠ .mark := by
      rcases hnode with hkind | hcode
      · exact hkind
      · rw [hconvert] at hcode
        cases hcode
    rw [form_of_none hconvert, if_neg hkind]
    exact ⟨_, rfl, fun ds _ => ⟨.inl rfl, .inl (DocNode.content_around name ds)⟩⟩
  | some conversion =>
    have hclaims := ((Registry.firstClaim_eq_some_iff node.type rules _).mp hfirst).1
    obtain ⟨known, hdefault, hform⟩ := hrule.default hclaims hconvert
    replace hform := hform sources name
    cases node with
    | root cs => cases hdefault; cases hconvert
    | content c =>
      cases c with
      | leaf l =>
        cases l with
        | text value => exact ⟨_, (Option.some.inj hform).symm, fun ds hds => .bare rfl rfl hds⟩
        | image url title alt =>
          exact ⟨_, (Option.some.inj hform).symm, fun ds hds => .bare rfl rfl hds⟩
        | imageReference identifier label alt =>
          rw [Source.Node.form?, Leaf.document?] at hform
          cases hfound : sources.get? identifier <;> rw [hfound] at hform
          · exact ⟨_, (Option.some.inj hform).symm, fun ds hds => .bare rfl rfl hds⟩
          · exact ⟨_, (Option.some.inj hform).symm, fun ds hds => .bare rfl rfl hds⟩
        | inlineCode value =>
          cases hdefault
          refine ⟨_, (Option.some.inj hform).symm, fun ds hds => ⟨.inr ⟨rfl, rfl⟩, .inl ?_⟩⟩
          exact (List.eq_nil_of_length_eq_zero hds).symm
        | code lang info value =>
          cases hdefault
          exact ⟨_, (Option.some.inj hform).symm,
            fun ds _ => ⟨.inl rfl, .inr ⟨rfl, fun t ht => ⟨value, List.mem_singleton.mp ht⟩⟩⟩⟩
        | _ => cases hdefault <;> cases hconvert
      | parent p cs =>
        cases p with
        | heading level =>
          cases hdefault
          exact ⟨_, (Option.some.inj hform).symm, fun ds _ => ⟨.inl rfl, .inl rfl⟩⟩
        | list ordered start =>
          cases hdefault
          exact ⟨_, (Option.some.inj hform).symm, fun ds _ => ⟨.inl rfl, .inl rfl⟩⟩
        | link url title =>
          cases hdefault
          rcases hnode with hkind | hcode
          · exact absurd rfl hkind
          · exact absurd (Option.some.inj hcode) Conversion.link_ne_inlineCode
        | _ => cases hdefault <;> cases hconvert

variable {s : Setting}

theorem treeValue_marking (hstandard : s.Standard) {depth : Int} {n : Source.Node}
    (hmarking : n.IsMarking s.rules) {d : DocNode} (hd : treeValue s depth n = .ok d) :
    ∃ m, n.Gives s.rules m ∧ (n.firstChild? = none → d = (DocNode.ofText "").applyMark m) ∧
      ∀ x, n.firstChild? = some x →
        ∃ inner, treeValue s (depth + 1) x = .ok inner ∧ d = inner.applyMark m := by
  obtain ⟨name, rule, hfirst, hrule, -, hresult⟩ := treeValue_ok hstandard hd
  obtain ⟨name', rule', hfirst', hkind, hother⟩ := hmarking
  cases hfirst.symm.trans hfirst'
  obtain ⟨m, hform, hgives⟩ := Rule.form_marking hfirst hrule hkind hother s.sources
  refine ⟨m, hgives, ?_⟩
  rw [hform] at hresult
  rw [Source.Node.firstChild?]
  cases hcs : n.children with
  | nil =>
    rw [hcs] at hresult
    cases hresult
    exact ⟨fun _ => rfl, fun x hx => by cases hx⟩
  | cons c rest =>
    rw [hcs, List.map_cons, Form.result] at hresult
    cases hinner : treeValue s (depth + 1) (.content c) with
    | error e => rw [hinner] at hresult; cases hresult
    | ok inner =>
      rw [hinner] at hresult
      cases hresult
      refine ⟨fun hnone => (by cases hnone), fun x hx => ?_⟩
      cases hx
      exact ⟨inner, hinner, rfl⟩

theorem treeValue_plain (hstandard : s.Standard) {depth : Int} {n : Source.Node}
    (hmarking : ¬n.IsMarking s.rules) {d : DocNode} (hd : treeValue s depth n = .ok d) :
    ∃ name rule ds, firstClaim n.type s.rules = some (name, rule) ∧
      (n.children.map fun c => treeValue s (depth + 1) (.content c)) = ds.map .ok ∧
      d.Encloses rule n ds := by
  obtain ⟨name, rule, hfirst, hrule, -, hresult⟩ := treeValue_ok hstandard hd
  have hnode : rule.kind ≠ .mark ∨ rule.convert = some Conversion.inlineCode := by
    rw [or_iff_not_imp_left, not_not]
    intro hkind
    by_contra hother
    exact hmarking ⟨name, rule, hfirst, hkind, hother⟩
  obtain ⟨make, hform, hmake⟩ := Rule.form_block hfirst hrule hnode s.sources
  rw [hform] at hresult
  obtain ⟨ds, hds, rfl⟩ := Result.eq_of_map_mapM_id hresult
  have hlength : ds.length = n.children.length := by
    simpa using congrArg List.length hds.symm
  exact ⟨name, rule, ds, hfirst, hds, hmake ds hlength⟩

theorem treeValue_up (hstandard : s.Standard) {depth : Int} {n : Source.Node} {d : DocNode}
    (hd : treeValue s (depth + 1) n = .ok d) : treeValue s depth n = .ok d := by
  refine treeValue_of_room hstandard rfl rfl (fun limit hlimit => ?_) hd
  exact ⟨limit, hlimit, by omega⟩

theorem treeValue_chain (hstandard : s.Standard) {depth : Int} {n : Source.Node}
    {rest : List Source.Node} (hmarking : ∀ k ∈ n :: rest, k.IsMarking s.rules)
    (hchain : (n :: rest).IsChain fun above below => above.firstChild? = some below) {d : DocNode}
    (hd : treeValue s depth n = .ok d) :
    ∃ marks, List.Forall₂ (Source.Node.Gives s.rules) (n :: rest) marks ∧
      (((n :: rest).getLast (by simp)).firstChild? = none →
        d = { DocNode.ofText "" with marks := some marks }) ∧
      ∀ x, ((n :: rest).getLast (by simp)).firstChild? = some x →
        ∃ inner, treeValue s depth x = .ok inner ∧
          d = { inner with marks := some (marks ++ inner.marks.getD []) } := by
  induction rest generalizing n depth d with
  | nil =>
    obtain ⟨m, hgives, hnone, hsome⟩ := treeValue_marking hstandard (hmarking n (by simp)) hd
    refine ⟨[m], .cons hgives .nil, hnone, fun x hx => ?_⟩
    obtain ⟨inner, hinner, rfl⟩ := hsome x hx
    exact ⟨inner, treeValue_up hstandard hinner, rfl⟩
  | cons k rest ih =>
    obtain ⟨hnext, hchain⟩ := List.isChain_cons_cons.mp hchain
    obtain ⟨m, hgives, -, hsome⟩ := treeValue_marking hstandard (hmarking n (by simp)) hd
    obtain ⟨below, hbelow, rfl⟩ := hsome k hnext
    have hrest : ∀ j ∈ k :: rest, j.IsMarking s.rules :=
      fun j hj => hmarking j (List.mem_cons_of_mem n hj)
    obtain ⟨marks, hmarks, hnone, hsome⟩ := ih hrest hchain hbelow
    rw [List.getLast_cons_cons]
    refine ⟨m :: marks, .cons hgives hmarks, fun hlast => ?_, fun x hx => ?_⟩
    · rw [hnone hlast]
      rfl
    · obtain ⟨inner, hinner, rfl⟩ := hsome x hx
      exact ⟨inner, treeValue_up hstandard hinner, rfl⟩

def DocNode.at? : List Nat → DocNode → Option DocNode
  | [], d => some d
  | i :: path, d => (d.content.getD [])[i]?.bind (at? path)

/-- The source node that the node of a document at a path comes from. Nodes that mark their first
child lead nowhere on their own, so that a chain of them counts by its first node. -/
inductive Origin (rules : List (String × Rule)) : Source.Node → List Nat → Source.Node → Prop
  | here (n : Source.Node) : Origin rules n [] n
  | child {n origin : Source.Node} {i : Nat} {path : List Nat} {c : Content}
      (plain : ¬n.IsMarking rules) (place : n.children[i]? = some c)
      (below : Origin rules (.content c) path origin) : Origin rules n (i :: path) origin
  | through {n x origin : Source.Node} {i : Nat} {path : List Nat} (marking : n.IsMarking rules)
      (first : n.firstChild? = some x) (below : Origin rules x (i :: path) origin) :
      Origin rules n (i :: path) origin

namespace Origin

variable {rules : List (String × Rule)} {n origin : Source.Node} {i : Nat} {path : List Nat}

theorem child_iff (hplain : ¬n.IsMarking rules) {c : Content} (hc : n.children[i]? = some c) :
    Origin rules n (i :: path) origin ↔ Origin rules (.content c) path origin := by
  refine ⟨fun h => ?_, fun h => .child hplain hc h⟩
  cases h with
  | child _ place below =>
    cases hc.symm.trans place
    exact below
  | through marking first below => exact absurd marking hplain

theorem through_iff (hmarking : n.IsMarking rules) {x : Source.Node}
    (hx : n.firstChild? = some x) :
    Origin rules n (i :: path) origin ↔ Origin rules x (i :: path) origin := by
  refine ⟨fun h => ?_, fun h => .through hmarking hx h⟩
  cases h with
  | child plain place below => exact absurd hmarking plain
  | through marking first below =>
    cases hx.symm.trans first
    exact below

end Origin

/-- A node of a document comes from what becomes the same node on its own. It has marks only if that
is a chain or inline code. -/
structure Derived (s : Setting) (depth : Int) (n : Source.Node) (path : List Nat) (m : DocNode) :
    Prop where
  same : ∀ origin, Origin s.rules n path origin → treeValue s depth origin = .ok m
  marks : (∀ origin, Origin s.rules n path origin → ¬origin.IsMarking s.rules) →
    m.marks = none ∨ m.marks = some [{ type := "code" }] ∧
      ∃ origin, Origin s.rules n path origin ∧ origin.IsInlineCode s.rules

namespace Derived

variable {depth : Int} {n : Source.Node} {path : List Nat} {m : DocNode}

theorem up (hstandard : s.Standard) {below : Source.Node} {path' : List Nat}
    (h : Derived s (depth + 1) below path' m)
    (horigin : ∀ origin, Origin s.rules n path origin ↔ Origin s.rules below path' origin) :
    Derived s depth n path m where
  same := fun origin ho => treeValue_up hstandard (h.same origin ((horigin origin).mp ho))
  marks := by
    intro hall
    rcases h.marks fun origin ho => hall origin ((horigin origin).mpr ho) with
      hnone | ⟨hmarks, origin, ho, hcode⟩
    · exact .inl hnone
    · exact .inr ⟨hmarks, origin, (horigin origin).mpr ho, hcode⟩

theorem here (hstandard : s.Standard) {d : DocNode} (hd : treeValue s depth n = .ok d) :
    Derived s depth n [] d where
  same := by
    intro origin horigin
    cases horigin
    exact hd
  marks := by
    intro hplain
    obtain ⟨name, rule, ds, hfirst, -, hencloses⟩ :=
      treeValue_plain hstandard (hplain n (.here n)) hd
    rcases hencloses.marks with hnone | ⟨hcode, hmarks⟩
    · exact .inl hnone
    · exact .inr ⟨hmarks, n, .here n, name, rule, hfirst, hcode⟩

theorem none {i : Nat} (hplain : ¬n.IsMarking s.rules) (hnil : n.children = []) {value : String}
    (hm : (DocNode.ofText value).at? path = some m) : Derived s depth n (i :: path) m where
  same := by
    intro origin horigin
    cases horigin with
    | child _ place below => rw [hnil] at place; cases place
    | through marking first below => exact absurd marking hplain
  marks := by
    intro _
    cases path with
    | nil => cases hm; exact .inl rfl
    | cons j path => cases hm

end Derived

theorem treeValue_derived (hstandard : s.Standard) {depth : Int} {n : Source.Node} {d : DocNode}
    (hd : treeValue s depth n = .ok d) {path : List Nat} {m : DocNode}
    (hm : d.at? path = some m) : Derived s depth n path m := by
  induction n using Source.Node.induction generalizing depth d path with
  | step n ih =>
    cases path with
    | nil =>
      cases hm
      exact .here hstandard hd
    | cons i path =>
      by_cases hmarking : n.IsMarking s.rules
      · obtain ⟨mark, -, hnone, hsome⟩ := treeValue_marking hstandard hmarking hd
        cases hx : n.firstChild? with
        | none =>
          rw [hnone hx] at hm
          cases hm
        | some x =>
          obtain ⟨inner, hinner, rfl⟩ := hsome x hx
          obtain ⟨c, hc, rfl⟩ := Option.map_eq_some_iff.mp hx
          have hm : inner.at? (i :: path) = some m := hm
          have hbelow := ih c (List.mem_of_head? hc) hinner hm
          exact hbelow.up hstandard fun origin => Origin.through_iff hmarking hx
      · obtain ⟨name, rule, ds, -, hds, hencloses⟩ := treeValue_plain hstandard hmarking hd
        obtain ⟨e, he, hm⟩ := Option.bind_eq_some_iff.mp hm
        rcases hencloses.content with hcontent | ⟨hnil, htexts⟩
        · rw [hcontent] at he
          have hvalue := congrArg (·[i]?) hds
          simp only [List.getElem?_map, he, Option.map_some] at hvalue
          obtain ⟨c, hc, hvalue⟩ := Option.map_eq_some_iff.mp hvalue
          have hbelow := ih c (List.mem_of_getElem? hc) hvalue hm
          exact hbelow.up hstandard fun origin => Origin.child_iff hmarking hc
        · -- The text in a block of code comes from no node of its own.
          obtain ⟨value, rfl⟩ := htexts e (List.mem_of_getElem? he)
          exact .none hmarking hnil hm

/-- Marks under standard rules. A chain of nodes that each mark their first child becomes what the
chain leads to, or an empty text, with the marks of the chain put before all others, outermost
first. In a whole document, what comes from no such chain has no marks, the one of inline code
apart. -/
theorem marks_outermost_first (p : Process) (hstandard : p.registry.IsStandard) :
    let rules := p.registry.rules
    (∀ (n : Source.Node) (rest : List Source.Node) (d : DocNode),
      (∀ k ∈ n :: rest, k.IsMarking rules) →
      (n :: rest).IsChain (fun above below => above.firstChild? = some below) →
      (convert n p).1 = .ok d →
      ∃ marks, List.Forall₂ (Source.Node.Gives rules) (n :: rest) marks ∧
        (((n :: rest).getLast (List.cons_ne_nil n rest)).firstChild? = none →
          d = { DocNode.ofText "" with marks := some marks }) ∧
        ∀ x, ((n :: rest).getLast (List.cons_ne_nil n rest)).firstChild? = some x →
          ∃ inner, (convert x p).1 = .ok inner ∧
            d = { inner with marks := some (marks ++ inner.marks.getD []) }) ∧
    ∀ (tree : Source.Node) (d : DocNode), (transform tree p).1 = .ok d →
      ∀ (path : List Nat) (m : DocNode), d.at? path = some m →
        (∀ origin, Origin rules (p.filtered tree) path origin →
          (convert origin (p.prepared tree)).1 = .ok m) ∧
        ((∀ origin, Origin rules (p.filtered tree) path origin → ¬origin.IsMarking rules) →
          m.marks = none ∨ m.marks = some [{ type := "code" }] ∧
            ∃ origin, Origin rules (p.filtered tree) path origin ∧ origin.IsInlineCode rules) := by
  intro rules
  have hcurrent : p.current.Standard := hstandard.rules
  have hvalue : ∀ n, (convert n p).1 = treeValue p.current p.depth n :=
    convert_eq_value hstandard.coherent hcurrent.plain
  refine ⟨fun n rest d hmarking hchain hd => ?_, fun tree d hd path m hm => ?_⟩
  · rw [hvalue] at hd
    simp only [hvalue]
    exact treeValue_chain hcurrent hmarking hchain hd
  · have hsetting : (p.setting tree).Standard := hstandard.rules
    have hprepared : ∀ n, (convert n (p.prepared tree)).1 = treeValue (p.setting tree) 0 n :=
      convert_eq_value (p := p.prepared tree) hstandard.coherent hsetting.plain
    rw [transform_eq_value hstandard.coherent hsetting.plain] at hd
    have hderived := treeValue_derived hsetting hd hm
    exact ⟨fun origin horigin => (hprepared origin).trans (hderived.same origin horigin),
      hderived.marks⟩

def asides : Process :=
  { options := ⟨Options.defaultIgnores, false, some 5⟩
    registry := .ofPairs (("aside", Registry.markRule "blockquote") :: Registry.defaultRules) }

theorem asides_isStandard : asides.registry.IsStandard := by
  refine Registry.isStandard_ofPairs fun entry hentry => ?_
  rcases List.mem_cons.mp hentry with rfl | hdefault
  · exact .inl rfl
  · exact .inr ⟨entry, hdefault, rfl⟩

def linkedCode : Content :=
  .parent (.link "u" none) [.leaf (.inlineCode "x"), .leaf .hardBreak]

def aside : Content :=
  .parent .blockquote [linkedCode, .text "y"]

def asideMarks : List Mark :=
  [{ type := "aside" }, { type := "link", attrs := some [("href", .str "u")] }, { type := "code" }]

theorem aside_marks :
    asides.registry.IsStandard ∧
    (convert (.content aside) asides).1 = .ok { DocNode.ofText "x" with marks := some asideMarks } ∧
    (∃ marks inner, List.Forall₂ (Source.Node.Gives asides.registry.rules)
        [.content aside, .content linkedCode] marks ∧
      (convert (.content (.leaf (.inlineCode "x"))) asides).1 = .ok inner ∧
      { DocNode.ofText "x" with marks := some asideMarks } =
        { inner with marks := some (marks ++ inner.marks.getD []) }) ∧
    (transform (.root [.text "y", aside]) asides).1 = .ok (.around "doc"
      [.ofText "y", { DocNode.ofText "x" with marks := some asideMarks }]) ∧
    (convert (.content aside) (asides.prepared (.root [.text "y", aside]))).1 =
      .ok { DocNode.ofText "x" with marks := some asideMarks } ∧
    ((DocNode.ofText "y").marks = none ∨ (DocNode.ofText "y").marks = some [{ type := "code" }] ∧
      ∃ origin, Origin asides.registry.rules (asides.filtered (.root [.text "y", aside])) [0]
        origin ∧ origin.IsInlineCode asides.registry.rules) := by
  have hquote : (Source.Node.content aside).IsMarking asides.registry.rules :=
    ⟨_, _, rfl, rfl, nofun⟩
  have hlink : (Source.Node.content linkedCode).IsMarking asides.registry.rules :=
    ⟨_, _, rfl, rfl, fun h => Conversion.link_ne_inlineCode (Option.some.inj h)⟩
  have hroot : ∀ cs, ¬(Source.Node.root cs).IsMarking asides.registry.rules := by
    rintro cs ⟨name, rule, hfirst, hkind, -⟩
    cases hfirst
    cases hkind
  have htext : ¬(Source.Node.content (.text "y")).IsMarking asides.registry.rules := by
    rintro ⟨name, rule, hfirst, hkind, -⟩
    cases hfirst
    cases hkind
  have hfiltered : asides.filtered (.root [.text "y", aside]) = .root [.text "y", aside] := rfl
  have hplain : ∀ origin,
      Origin asides.registry.rules (asides.filtered (.root [.text "y", aside])) [0] origin →
      ¬origin.IsMarking asides.registry.rules := by
    intro origin horigin
    rw [hfiltered, Origin.child_iff (c := .text "y") (hroot _) rfl] at horigin
    cases horigin
    exact htext
  have hconvert : (convert (.content aside) asides).1 =
      .ok { DocNode.ofText "x" with marks := some asideMarks } := rfl
  have htransform : (transform (.root [.text "y", aside]) asides).1 = .ok (.around "doc"
      [.ofText "y", { DocNode.ofText "x" with marks := some asideMarks }]) := by
    have hsetting : (asides.setting (.root [.text "y", aside])).Standard := asides_isStandard.rules
    rw [transform_eq_value asides_isStandard.coherent hsetting.plain]
    rfl
  obtain ⟨hchain, htree⟩ := marks_outermost_first asides asides_isStandard
  obtain ⟨marks, hmarks, -, hend⟩ := hchain (.content aside) [.content linkedCode] _
    (by simpa using ⟨hquote, hlink⟩) (.cons_cons rfl (.singleton _)) hconvert
  obtain ⟨inner, hinner, hd⟩ := hend (.content (.leaf (.inlineCode "x"))) rfl
  obtain ⟨-, hbare⟩ := htree (.root [.text "y", aside]) _ htransform [0] _ rfl
  obtain ⟨hsame, -⟩ := htree (.root [.text "y", aside]) _ htransform [1] _ rfl
  have horigin := Origin.child (i := 1) (c := aside) (hroot [.text "y", aside]) rfl (.here _)
  exact ⟨asides_isStandard, hconvert, ⟨marks, inner, hmarks, hinner, hd⟩, htransform,
    hsame _ horigin, hbare hplain⟩

end RichMarkdown
