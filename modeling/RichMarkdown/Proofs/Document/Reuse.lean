import RichMarkdown.Proofs.Document.Erasure
import RichMarkdown.Proofs.Process.History
import RichMarkdown.Proofs.Rule.Outcome
import RichMarkdown.Proofs.Rule.Visits
import RichMarkdown.Proofs.Source.Passes

/-! Converting a tree that has been converted before. Its definitions are gone, so that the images
that they were for have no address and no title any more; nothing else changes. -/
namespace RichMarkdown

open Source (Content Leaf Parent Definition)

namespace Source

namespace Node

theorem definition?_eq_none {n : Node} (h : n.type ≠ "definition") : n.definition? = none := by
  cases n with
  | root cs => rfl
  | content c =>
    cases c with
    | parent p cs => rfl
    | leaf l =>
      cases l with
      | definition d => exact absurd rfl h
      | _ => rfl

theorem type_bare (n : Node) : n.bare.type = n.type := by
  cases n with
  | root cs => rfl
  | content c => cases c <;> rfl

theorem references_remove {types : List String} {cascade : Bool} (hlisted : "definition" ∈ types)
    {n : Node} (htop : n.type ≠ "definition") : (n.remove types cascade).1.references = [] := by
  have hnone : (n.remove types cascade).1.definitions = [] := by
    rw [definitions, List.filterMap_eq_nil_iff, nodes, List.forall_mem_cons]
    constructor
    · apply definition?_eq_none
      rwa [← type_bare, bare_remove, type_bare]
    · intro m hm
      obtain ⟨c, hc, rfl⟩ := List.mem_map.mp hm
      have hkept := type_not_mem_of_remove c hc
      exact definition?_eq_none fun htype => hkept (Eq.mpr (congrArg (· ∈ types) htype) hlisted)
  rw [references_eq, hnone]
  rfl

def defines (n : Node) (identifier : String) : Bool :=
  (n.lastDefinition? identifier).isSome

end Node

def Leaf.resolves (defined : String → Bool) : Leaf → Bool
  | imageReference identifier _ _ => defined identifier
  | _ => false

def Node.resolves (defined : String → Bool) : Node → Bool
  | content (.leaf l) => l.resolves defined
  | _ => false

end Source

namespace DocNode

def untargetedAttr : String × Json → Option (String × Json)
  | ("src", _) => none
  | ("title", _) => some ("title", .null)
  | other => some other

def untargeted (d : DocNode) : DocNode :=
  { d with attrs := d.attrs.map (List.filterMap untargetedAttr) }

theorem untargeted_ofImage (url : String) (title alt : Option String) :
    (ofImage url title alt).untargeted = ofAlt alt := rfl

theorem ofAlt_ne_ofImage (url : String) (title alt : Option String) :
    ofAlt alt ≠ ofImage url title alt := by
  simp [ofAlt, ofImage]

end DocNode

namespace Source

mutual

/-- The document of a node with the address and the title unset in every image that comes from a
defined reference. A node that formats has no document node of its own but that of its first
child. -/
def Content.unresolved (defined : String → Bool) : Content → DocNode → DocNode
  | .leaf l, d => if l.resolves defined then d.untargeted else d
  | .parent _ [], d => d
  | .parent p (c :: rest), d =>
    if p.formats then Content.unresolved defined c d
    else { d with content := d.content.map (Content.unresolvedAll defined (c :: rest)) }

def Content.unresolvedAll (defined : String → Bool) : List Content → List DocNode → List DocNode
  | c :: rest, d :: ds => Content.unresolved defined c d :: Content.unresolvedAll defined rest ds
  | _, ds => ds

end

def Node.unresolved (defined : String → Bool) : Node → DocNode → DocNode
  | .root cs, d => { d with content := d.content.map (Content.unresolvedAll defined cs) }
  | .content c, d => c.unresolved defined d

namespace Content

variable {defined : String → Bool}

theorem unresolvedAll_nil (ds : List DocNode) : unresolvedAll defined [] ds = ds := by
  cases ds <;> rfl

theorem isEmpty_unresolvedAll (cs : List Content) (ds : List DocNode) :
    (unresolvedAll defined cs ds).isEmpty = ds.isEmpty := by
  cases cs <;> cases ds <;> rfl

theorem unresolved_of_formats {p : Parent} (h : p.formats = true) (c : Content)
    (rest : List Content) (d : DocNode) :
    (parent p (c :: rest)).unresolved defined d = c.unresolved defined d := by
  rw [unresolved, if_pos h]

theorem unresolved_of_not_formats {p : Parent} (h : p.formats = false) (cs : List Content)
    (d : DocNode) : (parent p cs).unresolved defined d =
      { d with content := d.content.map (unresolvedAll defined cs) } := by
  cases cs with
  | nil =>
    obtain ⟨type, attrs, content, marks, text⟩ := d
    have hsame : unresolvedAll defined [] = id := funext unresolvedAll_nil
    rw [unresolved, hsame, Option.map_id]
    rfl
  | cons c rest => rw [unresolved, if_neg (by rw [h]; exact Bool.false_ne_true)]

theorem marks_unresolved (c : Content) (d : DocNode) :
    (c.unresolved defined d).marks = d.marks := by
  induction c with
  | leaf l =>
    rw [unresolved]
    split <;> rfl
  | parent p cs ih =>
    cases cs with
    | nil => rfl
    | cons c rest =>
      rw [unresolved]
      split
      · exact ih c List.mem_cons_self
      · rfl

theorem unresolved_applyMark (c : Content) (m : Mark) (d : DocNode) :
    c.unresolved defined (d.applyMark m) = (c.unresolved defined d).applyMark m := by
  induction c with
  | leaf l =>
    rw [unresolved, unresolved]
    split <;> rfl
  | parent p cs ih =>
    cases cs with
    | nil => rfl
    | cons c rest =>
      rw [unresolved, unresolved]
      split
      · exact ih c List.mem_cons_self
      · rfl

end Content

end Source

theorem DocNode.applyMark_inj {d e : DocNode} (hmarks : d.marks = e.marks) (m : Mark) :
    d.applyMark m = e.applyMark m ↔ d = e := by
  obtain ⟨type, attrs, content, marks, text⟩ := d
  obtain ⟨type', attrs', content', marks', text'⟩ := e
  cases hmarks
  simp [applyMark]

theorem map_of_form? {p : Parent} {make : List DocNode → DocNode}
    (h : p.form? = some (.block make)) {f : List DocNode → List DocNode}
    (hf : ∀ ds, (f ds).isEmpty = ds.isEmpty) (ds : List DocNode) :
    make (f ds) = { make ds with content := (make ds).content.map f } := by
  have haround : ∀ type, DocNode.around type (f ds) =
      { DocNode.around type ds with content := (DocNode.around type ds).content.map f } := by
    intro type
    rw [DocNode.around, DocNode.around, hf]
    cases ds <;> rfl
  cases p with
  | heading level => cases h; rfl
  | list ordered start => cases h; rfl
  | _ => cases h <;> exact haround _

theorem Setting.within_map {s t : Setting} (hlimit : s.limit = t.limit) (level : Int)
    (result : Result) (f : DocNode → DocNode) :
    t.within level (result.map f) = (s.within level result).map f := by
  rw [within, within, exceeded, exceeded, hlimit]
  cases t.limit.filter fun limit => limit < level <;> rfl

section

variable {s t : Setting} {defined : String → Bool}

theorem document?_unresolved
    (hdefined : ∀ identifier, defined identifier = (s.sources.get? identifier).isSome) (l : Leaf) :
    l.document? [] = (l.document? s.sources).map ((Content.leaf l).unresolved defined) := by
  cases l with
  | imageReference identifier label alt =>
    have hresolves : (Leaf.imageReference identifier label alt).resolves defined =
        (s.sources.get? identifier).isSome := hdefined identifier
    rw [Leaf.document?, Leaf.document?]
    cases hd : s.sources.get? identifier with
    | none =>
      rw [hd] at hresolves
      rw [Option.map_some, Content.unresolved, hresolves]
      rfl
    | some d =>
      rw [hd] at hresolves
      rw [Option.map_some, Content.unresolved, hresolves]
      exact congrArg some (DocNode.untargeted_ofImage d.url d.title alt).symm
  | _ => rfl

theorem mapM_unresolved {cs : List Content} {f g : Content → Result}
    (h : ∀ c ∈ cs, g c = (f c).map (c.unresolved defined)) :
    (cs.map g).mapM id = ((cs.map f).mapM id).map (Content.unresolvedAll defined cs) := by
  induction cs with
  | nil => rfl
  | cons c rest ih =>
    rw [List.map_cons, List.map_cons, List.mapM_cons, List.mapM_cons, h c List.mem_cons_self,
      ih fun c hc => h c (List.mem_cons_of_mem _ hc)]
    cases f c with
    | error e => rfl
    | ok d => cases (rest.map f).mapM id <;> rfl

theorem Form.block_result_unresolved {cs : List Content} {f g : Content → Result}
    (h : ∀ c ∈ cs, g c = (f c).map (c.unresolved defined)) {make : List DocNode → DocNode}
    {change : DocNode → DocNode}
    (hmake : ∀ ds, make (Content.unresolvedAll defined cs ds) = change (make ds)) :
    (block make).result (cs.map g) = ((block make).result (cs.map f)).map change := by
  rw [result, result, mapM_unresolved h]
  cases (cs.map f).mapM id with
  | error e => rfl
  | ok ds => exact congrArg Except.ok (hmake ds)

/-- Without the definitions that references are resolved with, a node becomes what it becomes with
them but for the images from these references. It fails as it does with them. -/
theorem contentValue_unresolved (hs : s.rules = Registry.defaultRules)
    (ht : t.rules = Registry.defaultRules) (hlimit : s.limit = t.limit) (hgone : t.sources = [])
    (hdefined : ∀ identifier, defined identifier = (s.sources.get? identifier).isSome)
    (c : Content) (depth : Int) :
    contentValue t depth c = (contentValue s depth c).map (c.unresolved defined) := by
  induction c generalizing depth with
  | leaf l =>
    rw [contentValue_leaf hs, contentValue_leaf ht, hgone, document?_unresolved hdefined]
    cases l.document? s.sources with
    | none => rfl
    | some d => exact Setting.within_map hlimit _ (.ok d) _
  | parent p cs ih =>
    have hbelow := fun c hc => ih c hc (depth + 1)
    rw [contentValue_parent hs, contentValue_parent ht]
    cases hform : p.form? with
    | none => rfl
    | some form =>
      have hformats := Parent.formats_eq hform
      dsimp only
      rw [← Setting.within_map hlimit]
      congr 1
      cases form with
      | block make =>
        refine Form.block_result_unresolved hbelow fun ds => ?_
        rw [Content.unresolved_of_not_formats hformats]
        exact map_of_form? hform (Content.isEmpty_unresolvedAll cs) ds
      | mark m =>
        cases cs with
        | nil => rfl
        | cons c rest =>
          rw [List.map_cons, List.map_cons, Form.result, Form.result, hbelow c List.mem_cons_self]
          cases contentValue s (depth + 1) c with
          | error e => rfl
          | ok d =>
            refine congrArg Except.ok ?_
            rw [Content.unresolved_of_formats hformats, Content.unresolved_applyMark]

theorem treeValue_unresolved (hs : s.rules = Registry.defaultRules)
    (ht : t.rules = Registry.defaultRules) (hlimit : s.limit = t.limit) (hgone : t.sources = [])
    (hdefined : ∀ identifier, defined identifier = (s.sources.get? identifier).isSome)
    (n : Source.Node) (depth : Int) :
    treeValue t depth n = (treeValue s depth n).map (n.unresolved defined) := by
  have hcontent := contentValue_unresolved hs ht hlimit hgone hdefined
  cases n with
  | content c => exact hcontent c depth
  | root cs =>
    rw [treeValue_root hs, treeValue_root ht, ← Setting.within_map hlimit]
    congr 1
    refine Form.block_result_unresolved (fun c _ => hcontent c (depth + 1)) fun ds => ?_
    have hempty : (Content.unresolvedAll defined cs ds).isEmpty = ds.isEmpty :=
      Content.isEmpty_unresolvedAll cs ds
    rw [DocNode.around, hempty, Source.Node.unresolved, DocNode.around]
    cases ds <;> rfl

theorem unresolvedAll_eq_self_iff {P : Content → Prop} {cs : List Content} {ds : List DocNode}
    (h : List.Forall₂ (fun c d => c.unresolved defined d = d ↔ P c) cs ds) :
    Content.unresolvedAll defined cs ds = ds ↔ ∀ c ∈ cs, P c := by
  induction h with
  | nil => simp [Content.unresolvedAll_nil]
  | cons hd _ ih => rw [Content.unresolvedAll, List.cons.injEq, List.forall_mem_cons, hd, ih]

theorem content_unresolved_eq_self_iff (hs : s.rules = Registry.defaultRules)
    (hdefined : ∀ identifier, defined identifier = (s.sources.get? identifier).isSome)
    {c : Content} {depth : Int} {d : DocNode} (hd : contentValue s depth c = .ok d) (level : Int) :
    c.unresolved defined d = d ↔
      ∀ v ∈ (Source.Node.content c).visits Registry.defaultRules level,
        v.node.resolves defined = false := by
  refine contentValue_induction hs (motive := fun c d => ∀ level, c.unresolved defined d = d ↔
      ∀ v ∈ (Source.Node.content c).visits Registry.defaultRules level,
        v.node.resolves defined = false) ?_ ?_ ?_ ?_ hd level
  · intro l d hd level
    have hvisits : (Source.Node.content (.leaf l)).visits Registry.defaultRules level =
        [⟨level, .content (.leaf l)⟩] := rfl
    rw [hvisits, List.forall_mem_singleton, Content.unresolved, Source.Node.resolves]
    cases hresolves : l.resolves defined with
    | false => simp
    | true =>
      cases l with
      | imageReference identifier label alt =>
        have hsome : (s.sources.get? identifier).isSome := (hdefined identifier) ▸ hresolves
        obtain ⟨found, hfound⟩ := Option.isSome_iff_exists.mp hsome
        rw [Leaf.document?, hfound] at hd
        cases hd
        rw [if_pos rfl, DocNode.untargeted_ofImage]
        simpa using DocNode.ofAlt_ne_ofImage found.url found.title alt
      | _ => cases hresolves
  · intro p make cs ds hform hds level
    have hinjective : make.Injective := by
      intro ds ds' hsame
      rw [← content_of_form? hform ds, hsame, content_of_form? hform]
    rw [Source.Node.visits_parent hform, List.forall_mem_cons, List.forall_mem_flatMap,
      Content.unresolved_of_not_formats (Parent.formats_eq hform),
      ← map_of_form? hform (Content.isEmpty_unresolvedAll cs), hinjective.eq_iff]
    exact (unresolvedAll_eq_self_iff (hds.imp fun c d h => h (level + 1))).trans
      ⟨fun h => ⟨rfl, h⟩, And.right⟩
  · intro p m hform level
    rw [Source.Node.visits_parent hform]
    simp [Form.reached, Content.unresolved, Source.Node.resolves]
  · intro p m c rest d hform hd level
    rw [Source.Node.visits_parent hform, List.forall_mem_cons, List.forall_mem_flatMap,
      Content.unresolved_of_formats (Parent.formats_eq hform), Content.unresolved_applyMark,
      DocNode.applyMark_inj (Content.marks_unresolved c d), hd (level + 1)]
    simp [Form.reached, Source.Node.resolves]

theorem unresolved_eq_self_iff (hs : s.rules = Registry.defaultRules)
    (hdefined : ∀ identifier, defined identifier = (s.sources.get? identifier).isSome)
    {n : Source.Node} {depth : Int} {d : DocNode} (hd : treeValue s depth n = .ok d) :
    n.unresolved defined d = d ↔
      ∀ v, Visited Registry.defaultRules n v → v.node.resolves defined = false := by
  simp only [← mem_visits_iff]
  cases n with
  | content c => exact content_unresolved_eq_self_iff hs hdefined hd 1
  | root cs =>
    obtain ⟨ds, rfl, hds⟩ := treeValue_root_ok hs
      (fun c _ d hd => content_unresolved_eq_self_iff hs hdefined hd (1 + 1)) hd
    rw [Source.Node.visits_root, List.forall_mem_cons, List.forall_mem_flatMap,
      ← unresolvedAll_eq_self_iff hds, Source.Node.unresolved]
    cases ds with
    | nil => cases cs <;> simp [DocNode.around, Content.unresolvedAll, Source.Node.resolves]
    | cons d ds => simp [DocNode.around, Source.Node.resolves]

end

theorem transform_left {p q : Process} {tree : Source.Node} (hp : p.registry.IsDefault)
    (hq : q.registry.IsDefault) (hoptions : q.options = p.options)
    (hignores : "definition" ∈ p.options.ignores) (htop : tree.type ≠ "definition") :
    q.filtered (p.filtered tree) = p.filtered tree ∧
      (transform (p.filtered tree) q).2.sources = [] ∧
      (transform (p.filtered tree) q).1 =
        (transform tree p).1.map ((p.filtered tree).unresolved tree.defines) := by
  have hs : (p.setting tree).rules = Registry.defaultRules := hp.rules
  have ht : (q.setting (p.filtered tree)).rules = Registry.defaultRules := hq.rules
  have hgone : (p.filtered tree).references = [] := Source.Node.references_remove hignores htop
  have hfiltered : q.filtered (p.filtered tree) = p.filtered tree := by
    rw [Process.filtered, hoptions, Process.filtered,
      Source.Node.remove_again (List.Subset.refl _)]
  have hdefined : ∀ identifier,
      tree.defines identifier = (tree.references.get? identifier).isSome :=
    fun identifier => congrArg Option.isSome (Source.Node.get?_references tree identifier).symm
  refine ⟨hfiltered, ?_, ?_⟩
  · rw [transform_sources hq.coherent (Setting.plain_default ht), hgone]
  · rw [transform_eq_value hp.coherent (Setting.plain_default hs),
      transform_eq_value hq.coherent (Setting.plain_default ht), hfiltered]
    exact treeValue_unresolved hs ht (congrArg Options.maxDepth hoptions.symm) hgone hdefined _ 0

theorem transform_unresolved_iff {p : Process} {tree : Source.Node} (hp : p.registry.IsDefault)
    {d : DocNode} (hd : (transform tree p).1 = .ok d) :
    (p.filtered tree).unresolved tree.defines d = d ↔
      ∀ v, Visited p.registry.rules (p.filtered tree) v →
        v.node.resolves tree.defines = false := by
  have hs : (p.setting tree).rules = Registry.defaultRules := hp.rules
  rw [transform_eq_value hp.coherent (Setting.plain_default hs)] at hd
  rw [hp.rules]
  exact unresolved_eq_self_iff hs
    (fun identifier => congrArg Option.isSome (Source.Node.get?_references tree identifier).symm) hd

namespace Session

/-- With the default rules, a conversion leaves of its tree what is not dropped, however it ends. To
convert that again, on any process with the same options and rules, drops nothing, finds no
definitions, and ends with the same error or with the same document but for the images from
references that had a definition: these have no address and no title any more. So the documents
are equal if and only if no such reference was visited. -/
theorem transform_reused {s : Session} {m : Nat} {p : Process} {a : String} {tree : Source.Node}
    (hp : s.processes[m]? = some p) (ha : s.trees.get? a = some tree)
    (hdefault : p.registry.IsDefault) (hignores : "definition" ∈ p.options.ignores)
    (htop : tree.type ≠ "definition") :
    let left := (tree.remove p.options.ignores p.options.cascade).1
    ∃ o s', s.step m (.transform a) = some (o, s') ∧
      o.tree = some left ∧ s'.trees.get? a = some left ∧
      ∀ (t : Session) (n : Nat) (q : Process) (b : String), t.processes[n]? = some q →
        t.trees.get? b = some left → q.registry.IsDefault → q.options = p.options →
        ∃ o' t', t.step n (.transform b) = some (o', t') ∧
          left.remove q.options.ignores q.options.cascade = (left, 0) ∧
          o'.tree = some left ∧ t'.trees.get? b = some left ∧ o'.process.sources = [] ∧
          ((∃ e, o.answer = .error e ∧ o'.answer = .error e) ∨
            ∃ d, o.answer = .ok (.document d) ∧
              o'.answer = .ok (.document (left.unresolved tree.defines d)) ∧
              (left.unresolved tree.defines d = d ↔ ∀ v, Visited p.registry.rules left v →
                v.node.resolves tree.defines = false)) := by
  intro left
  have hkept : ∀ (trees : Entries Source.Node) (name : String),
      (trees.put name left).get? name = some left :=
    fun trees name => (Entries.get?_put name name left trees).trans (if_pos rfl)
  refine ⟨_, _, s.step_transform hp ha, rfl, hkept s.trees a, fun t n q b hq hb => ?_⟩
  intro hdefault' hoptions
  obtain ⟨hfiltered, hsources, hresult⟩ := transform_left (p := { p with log := [] })
    (q := { q with log := [] }) hdefault hdefault' hoptions hignores htop
  have hremove : left.remove q.options.ignores q.options.cascade = (left, 0) := by
    rw [hoptions]
    exact Source.Node.remove_again (List.Subset.refl _) tree
  have hleft : q.filtered left = left := hfiltered
  refine ⟨_, _, t.step_transform hq hb, hremove, congrArg some hleft, ?_, hsources, ?_⟩
  · rw [hleft]
    exact hkept t.trees b
  · cases hd : (transform tree { p with log := [] }).1 with
    | error e =>
      refine .inl ⟨e, rfl, ?_⟩
      rw [hd] at hresult
      exact congrArg (Except.map Answer.document) hresult
    | ok d =>
      refine .inr ⟨d, rfl, ?_, transform_unresolved_iff (p := { p with log := [] }) hdefault hd⟩
      rw [hd] at hresult
      exact congrArg (Except.map Answer.document) hresult

def album : Source.Node :=
  .root [.parent .paragraph
      [.parent .strong [.leaf (.imageReference "a" none (some "first"))],
        .leaf (.image "v" none none), .leaf (.imageReference "b" none none)],
    .leaf (.definition ⟨"a", none, "u", some "A"⟩)]

def albumSession (limit : Option Int) : Session :=
  { start 2 ⟨Options.defaultIgnores, true, limit⟩ .default false with trees := [("album", album)] }

def albumDocument (first : DocNode) : DocNode :=
  .around "doc" [.around "paragraph"
    [first.applyMark { type := "strong" }, .ofImage "v" none none, .ofAlt none]]

def albumProcess (limit : Option Int) : Process :=
  { options := ⟨Options.defaultIgnores, true, limit⟩, registry := .default }

theorem transform_album (limit : Option Int) : (transform album (albumProcess limit)).1 =
    treeValue ⟨Registry.defaultRules, limit, [("a", ⟨"a", none, "u", some "A"⟩)]⟩ 0
      ((albumProcess limit).filtered album) := by
  have hreferences : album.references = [("a", ⟨"a", none, "u", some "A"⟩)] := by
    rw [Source.Node.references_eq]
    rfl
  rw [← hreferences]
  exact transform_eq_value (p := albumProcess limit) Registry.coherent_default
    (Setting.plain_default rfl)

theorem album_reused :
    (∃ o s' o' t', (albumSession none).step 0 (.transform "album") = some (o, s') ∧
      s'.step 1 (.transform "album") = some (o', t') ∧
      o.answer = .ok (.document (albumDocument (.ofImage "u" (some "A") (some "first")))) ∧
      o'.answer = .ok (.document (albumDocument (.ofAlt (some "first")))) ∧
      o'.tree = o.tree ∧ o'.process.sources = []) ∧
    ∃ o s' o' t', (albumSession (some 2)).step 0 (.transform "album") = some (o, s') ∧
      s'.step 1 (.transform "album") = some (o', t') ∧
      o.answer = .error (.tooDeep 2) ∧ o'.answer = .error (.tooDeep 2) ∧
      o'.tree = o.tree ∧ o'.process.sources = [] := by
  have hdefault : Registry.default.IsDefault := Registry.isDefault_default
  have hignores : "definition" ∈ Options.defaultIgnores := by decide
  have hrun : ∀ limit, ∃ o s' o' t',
      (albumSession limit).step 0 (.transform "album") = some (o, s') ∧
      s'.step 1 (.transform "album") = some (o', t') ∧
      o.answer = (transform album (albumProcess limit)).1.map .document ∧
      ((∃ e, o.answer = .error e ∧ o'.answer = .error e) ∨ ∃ d, o.answer = .ok (.document d) ∧
        o'.answer = .ok
          (.document (((albumProcess limit).filtered album).unresolved album.defines d))) ∧
      o'.tree = o.tree ∧ o'.process.sources = [] := by
    intro limit
    obtain ⟨o, s', hstep, htree, hleft, hagain⟩ := transform_reused (s := albumSession limit)
      (m := 0) (p := albumProcess limit) (a := "album") rfl rfl hdefault hignores (by decide)
    have hgiven : (albumSession limit).trees.get? "album" = some album := rfl
    have hfirst := (albumSession limit).step_transform (n := 0) (p := albumProcess limit) rfl hgiven
    obtain ⟨ho, hs'⟩ := Prod.mk.inj (Option.some.inj (hstep.symm.trans hfirst))
    have hsecond : s'.processes[1]? = some (albumProcess limit) := by
      rw [hs']
      rfl
    obtain ⟨o', t', hstep', -, htree', -, hsources, hanswer⟩ :=
      hagain s' 1 (albumProcess limit) "album" hsecond hleft hdefault rfl
    refine ⟨o, s', o', t', hstep, hstep', congrArg Outcome.answer ho, ?_, htree'.trans htree.symm,
      hsources⟩
    exact hanswer.imp_right fun ⟨d, hd, hd', _⟩ => ⟨d, hd, hd'⟩
  constructor
  · obtain ⟨o, s', o', t', hstep, hstep', hanswer, hagain, htree, hsources⟩ := hrun none
    have hdocument : o.answer = .ok (.document (albumDocument
        (.ofImage "u" (some "A") (some "first")))) := by
      rw [hanswer, transform_album]
      rfl
    rw [hdocument] at hagain
    rcases hagain with ⟨e, he, -⟩ | ⟨d, hd, hd'⟩
    · cases he
    · cases hd
      exact ⟨o, s', o', t', hstep, hstep', hdocument, hd', htree, hsources⟩
  · obtain ⟨o, s', o', t', hstep, hstep', hanswer, hagain, htree, hsources⟩ := hrun (some 2)
    have herror : o.answer = .error (.tooDeep 2) := by
      rw [hanswer, transform_album]
      rfl
    rw [herror] at hagain
    rcases hagain with ⟨e, he, he'⟩ | ⟨d, hd, -⟩
    · cases he
      exact ⟨o, s', o', t', hstep, hstep', herror, he', htree, hsources⟩
    · cases hd

end Session

end RichMarkdown
