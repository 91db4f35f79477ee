import RichMarkdown.Proofs.Document.Nodes
import RichMarkdown.Proofs.Rule.Outcome
import RichMarkdown.Proofs.Rule.Visits
import RichMarkdown.Source.Fields

/-! What is empty in a document. An empty list of nodes comes from a heading or a list without
children and from nothing else; a tree with nothing empty in it has a document with nothing empty in
it, if the dropping of nodes cascades. -/
namespace RichMarkdown

open Source (Content Leaf Parent)

namespace DocNode

/-- Whether a node has a content, but nothing in it. -/
def vacant (d : DocNode) : Bool :=
  d.content.any List.isEmpty

def vacancies (d : DocNode) : List String :=
  (d.nodes.filter vacant).map type

theorem vacant_eq_false_iff (d : DocNode) : d.vacant = false ↔ d.content ≠ some [] := by
  obtain ⟨type, attrs, content, marks, text⟩ := d
  cases content <;> simp [vacant]

theorem vacancies_eq (d : DocNode) : d.vacancies =
    (if d.vacant then [d.type] else []) ++ (d.content.getD []).flatMap vacancies := by
  have hinside : (d.inside.filter vacant).map type = (d.content.getD []).flatMap vacancies := by
    rw [inside, nodesOf_eq_flatMap, List.filter_flatMap, List.map_flatMap]
    rfl
  rw [vacancies, nodes_eq, List.filter_cons, ← hinside]
  cases d.vacant <;> rfl

theorem vacancies_eq_nil_iff (d : DocNode) :
    d.vacancies = [] ↔ ∀ m ∈ d.nodes, m.content ≠ some [] := by
  rw [vacancies, List.map_eq_nil_iff, List.filter_eq_nil_iff]
  exact forall₂_congr fun m _ => (Bool.not_eq_true _).to_iff.trans m.vacant_eq_false_iff

theorem vacancies_applyMark (m : Mark) (d : DocNode) : (d.applyMark m).vacancies = d.vacancies := by
  rw [vacancies_eq, vacancies_eq]
  rfl

theorem vacant_around (type : String) (ds : List DocNode) : (around type ds).vacant = false := by
  cases ds <;> rfl

end DocNode

def Source.Node.vacancy? : Source.Node → Option String
  | .content (.parent (.heading _) []) => some "heading"
  | .content (.parent (.list ordered _) []) =>
    some (if ordered then "orderedList" else "bulletList")
  | _ => none

theorem vacancy?_of_block {p : Parent} {make : List DocNode → DocNode}
    (h : p.form? = some (.block make)) {R : Content → DocNode → Prop} {cs : List Content}
    {ds : List DocNode} (hds : List.Forall₂ R cs ds) :
    (Source.Node.content (.parent p cs)).vacancy? =
      if (make ds).vacant then some (make ds).type else none := by
  cases p with
  | heading level =>
    cases h
    cases hds <;> rfl
  | list ordered start =>
    cases h
    cases hds <;> rfl
  | _ => cases h <;> rw [DocNode.vacant_around] <;> rfl

theorem vacancy?_of_mark {p : Parent} {m : Mark} (h : p.form? = some (.mark m))
    (cs : List Content) : (Source.Node.content (.parent p cs)).vacancy? = none := by
  cases p <;> cases h <;> rfl

section

variable {s : Setting}

theorem flatMap_vacancies {f : Content → List String} {cs : List Content} {ds : List DocNode}
    (h : List.Forall₂ (fun c d => d.vacancies = f c) cs ds) :
    ds.flatMap DocNode.vacancies = cs.flatMap f := by
  induction h with
  | nil => rfl
  | cons hd _ ih => rw [List.flatMap_cons, List.flatMap_cons, hd, ih]

theorem contentValue_vacancies (hrules : s.rules = Registry.defaultRules) {c : Content}
    {depth : Int} {d : DocNode} (hd : contentValue s depth c = .ok d) (level : Int) :
    d.vacancies = ((Source.Node.content c).visits Registry.defaultRules level).filterMap
      fun v => v.node.vacancy? := by
  refine contentValue_induction hrules (motive := fun c d => ∀ level, d.vacancies =
      ((Source.Node.content c).visits Registry.defaultRules level).filterMap
        fun v => v.node.vacancy?) ?_ ?_ ?_ ?_ hd level
  · intro l d hl level
    cases l with
    | imageReference identifier label alt =>
      rw [Leaf.document?] at hl
      split at hl <;> cases hl <;> rfl
    | _ => cases hl <;> rfl
  · intro p make cs ds hform hds level
    rw [Source.Node.visits_parent hform, List.filterMap_cons, vacancy?_of_block hform hds,
      DocNode.vacancies_eq, content_of_form? hform, flatMap_vacancies (hds.imp fun _ _ h => h _),
      List.filterMap_flatMap]
    cases (make ds).vacant <;> rfl
  · intro p m hform level
    rw [Source.Node.visits_parent hform, List.filterMap_cons, vacancy?_of_mark hform]
    rfl
  · intro p m c rest d hform hd level
    rw [Source.Node.visits_parent hform, List.filterMap_cons, vacancy?_of_mark hform,
      DocNode.vacancies_applyMark, hd (level + 1)]
    exact congrArg _ (List.append_nil _).symm

theorem treeValue_vacancies (hrules : s.rules = Registry.defaultRules) {n : Source.Node}
    {depth : Int} {d : DocNode} (hd : treeValue s depth n = .ok d) (level : Int) :
    d.vacancies = (n.visits Registry.defaultRules level).filterMap fun v => v.node.vacancy? := by
  cases n with
  | content c => exact contentValue_vacancies hrules hd level
  | root cs =>
    obtain ⟨ds, rfl, hds⟩ := treeValue_root_ok hrules
      (fun c _ d hd => contentValue_vacancies hrules hd (level + 1)) hd
    rw [Source.Node.visits_root, List.filterMap_cons, DocNode.vacancies_eq, DocNode.vacant_around,
      DocNode.content_around, flatMap_vacancies hds, List.filterMap_flatMap]
    rfl

end

/-- With the default rules, the nodes of a document with an empty list as content are one for each
visited heading or list without children, in order. So there are none if and only if no such
heading or list is visited. -/
theorem transform_vacancies {p : Process} {tree : Source.Node} (hdefault : p.registry.IsDefault)
    {d : DocNode} (hd : (transform tree p).1 = .ok d) :
    d.vacancies = ((p.filtered tree).visits p.registry.rules 1).filterMap
      (fun v => v.node.vacancy?) ∧
    ((∀ m ∈ d.nodes, m.content ≠ some []) ↔
      ∀ v, Visited p.registry.rules (p.filtered tree) v → v.node.vacancy? = none) := by
  have hrules : (p.setting tree).rules = Registry.defaultRules := hdefault.rules
  rw [transform_eq_value hdefault.coherent (Setting.plain_default hrules)] at hd
  have hvacancies := treeValue_vacancies hrules hd 1
  rw [hdefault.rules]
  refine ⟨hvacancies, ?_⟩
  rw [← DocNode.vacancies_eq_nil_iff, hvacancies, List.filterMap_eq_nil_iff]
  exact forall_congr' fun v => imp_congr_left mem_visits_iff

def untitled : Source.Node :=
  .root [.parent (.heading ⟨2, by decide, by decide⟩) [], .parent .paragraph [],
    .parent (.list false none) []]

def untitledDocument : DocNode :=
  .around "doc" [{ type := "heading", attrs := some [("level", .int 2)], content := some [] },
    { type := "paragraph" }, { type := "bulletList", content := some [] }]

def usual : Process :=
  { options := .default, registry := .default }

theorem transform_untitled : (transform untitled usual).1 = .ok untitledDocument := by
  have hreferences : untitled.references = [] := by
    rw [Source.Node.references_eq]
    rfl
  have hvalue : (transform untitled usual).1 =
      treeValue ⟨Registry.defaultRules, none, untitled.references⟩ 0 (usual.filtered untitled) :=
    transform_eq_value (p := usual) Registry.coherent_default (Setting.plain_default rfl)
  rw [hvalue, hreferences]
  rfl

theorem untitled_vacancies :
    usual.registry.IsDefault ∧ (transform untitled usual).1 = .ok untitledDocument ∧
    untitledDocument.vacancies = ((usual.filtered untitled).visits usual.registry.rules 1).filterMap
      (fun v => v.node.vacancy?) ∧
    untitledDocument.vacancies = ["heading", "bulletList"] ∧
    ¬ ∀ v, Visited usual.registry.rules (usual.filtered untitled) v → v.node.vacancy? = none := by
  obtain ⟨hvacancies, hiff⟩ := transform_vacancies Registry.isDefault_default transform_untitled
  refine ⟨Registry.isDefault_default, transform_untitled, hvacancies, rfl, fun hnone => ?_⟩
  have hnil := untitledDocument.vacancies_eq_nil_iff.mpr (hiff.mpr hnone)
  cases hnil

theorem untitled_vacant :
    usual.registry.IsDefault ∧ ∃ d, (transform untitled usual).1 = .ok d ∧
      ∀ type ∈ ["heading", "bulletList"], ∃ m ∈ d.nodes, m.type = type ∧ m.content = some [] := by
  refine ⟨Registry.isDefault_default, untitledDocument, transform_untitled, ?_⟩
  simp [untitledDocument, DocNode.around, DocNode.nodes, DocNode.nodesOf]

/-- A node has a text with something in it, if it has a text, and children, if it is of a kind that
can have some. -/
def Source.Node.Filled (n : Source.Node) : Prop :=
  n.value? ≠ some "" ∧ n.children? ≠ some []

namespace Source.Content

variable {types : List String}

theorem filled_parent_iff {p : Parent} {cs : List Content} :
    (Node.content (parent p cs)).Filled ↔ cs ≠ [] := by
  simp [Node.Filled, Node.value?, Node.children?]

theorem filled_of_kept {c d : Content} (hfilled : ∀ m ∈ c.nodes, (Node.content m).Filled)
    (hkept : c.kept types true = some d) : ∀ m ∈ d.nodes, (Node.content m).Filled := by
  induction c generalizing d with
  | leaf l =>
    rw [kept_leaf] at hkept
    split at hkept
    · cases hkept
    · cases hkept
      exact hfilled
  | parent p cs ih =>
    have hchildren : cs ≠ [] := filled_parent_iff.mp (hfilled _ (self_mem_nodes _))
    rw [kept_parent] at hkept
    split at hkept
    · cases hkept
    · next hstays =>
      cases hkept
      rw [nodes, List.forall_mem_cons, nodesOf_eq_flatMap, List.forall_mem_flatMap]
      refine ⟨filled_parent_iff.mpr fun hnil => ?_, fun d hd => ?_⟩
      · simp [emptied, hchildren, hnil] at hstays
      · obtain ⟨c, hc, hkept⟩ := List.mem_filterMap.mp hd
        exact ih c hc (fun m hm => hfilled m (mem_nodes_of_mem hc hm)) hkept

end Source.Content

namespace DocNode

def blockTypes : List String :=
  ["paragraph", "blockquote", "heading", "orderedList", "bulletList", "listItem", "table",
    "tableRow", "tableCell"]

/-- A node with something in its text, if it has a text, and with nodes in it, if it is a block. -/
structure Filled (d : DocNode) : Prop where
  text_ne : d.text ≠ some ""
  content_ne : d.type ∈ blockTypes → d.content.getD [] ≠ []

theorem filled_ofText {s : String} (h : s ≠ "") : ∀ m ∈ (ofText s).nodes, m.Filled := by
  rw [forall_nodes_iff]
  refine ⟨⟨fun hs => h (Option.some.inj hs), ?_⟩, by simp [ofText]⟩
  simp [ofText, blockTypes]

theorem filled_of_type {type : String} (htype : type ∉ blockTypes)
    (attrs : Option (List (String × Json))) {content : Option (List DocNode)}
    (hcontent : ∀ c ∈ content.getD [], ∀ m ∈ c.nodes, m.Filled) :
    ∀ m ∈ (⟨type, attrs, content, none, none⟩ : DocNode).nodes, m.Filled := by
  rw [forall_nodes_iff]
  exact ⟨⟨by simp, fun h => absurd h htype⟩, hcontent⟩

theorem filled_around {type : String} (htype : type ∉ blockTypes) {ds : List DocNode}
    (hds : ∀ d ∈ ds, ∀ m ∈ d.nodes, m.Filled) : ∀ m ∈ (around type ds).nodes, m.Filled := by
  refine filled_of_type htype none ?_
  cases ds with
  | nil => simp
  | cons first rest => exact hds

theorem filled_applyMark {d : DocNode} (h : ∀ m ∈ d.nodes, m.Filled) (mark : Mark) :
    ∀ m ∈ (d.applyMark mark).nodes, m.Filled := by
  rw [forall_nodes_iff] at h ⊢
  exact ⟨⟨h.1.text_ne, h.1.content_ne⟩, h.2⟩

theorem filled_of_form? {p : Parent} {make : List DocNode → DocNode}
    (h : p.form? = some (.block make)) {ds : List DocNode} (hne : ds ≠ [])
    (hds : ∀ d ∈ ds, ∀ m ∈ d.nodes, m.Filled) : ∀ m ∈ (make ds).nodes, m.Filled := by
  have htext : (make ds).text = none := by cases p <;> cases h <;> rfl
  rw [forall_nodes_iff, content_of_form? h]
  refine ⟨⟨by simp [htext], fun _ => ?_⟩, hds⟩
  rwa [content_of_form? h]

end DocNode

theorem document?_filled {sources : Entries Source.Definition} {l : Leaf} {d : DocNode}
    (h : l.document? sources = some d) (hfilled : (Source.Node.content (.leaf l)).Filled) :
    ∀ m ∈ d.nodes, m.Filled := by
  have htext : ∀ value, (Source.Node.content (.leaf l)).value? = some value →
      ∀ m ∈ (DocNode.ofText value).nodes, m.Filled := by
    intro value hvalue
    refine DocNode.filled_ofText fun hempty => hfilled.1 ?_
    rw [hvalue, hempty]
  have hbare : ∀ type attrs, type ∉ DocNode.blockTypes →
      ∀ m ∈ ({ type, attrs } : DocNode).nodes, m.Filled :=
    fun type attrs htype => DocNode.filled_of_type htype attrs (by simp)
  cases l with
  | text value => cases h; exact htext value rfl
  | inlineCode value => cases h; exact DocNode.filled_applyMark (htext value rfl) _
  | hardBreak => cases h; exact hbare _ _ (by decide)
  | thematicBreak => cases h; exact hbare _ _ (by decide)
  | code lang info value =>
    cases h
    rw [DocNode.forall_nodes_iff]
    refine ⟨⟨by simp, by simp⟩, fun c hc => ?_⟩
    cases List.mem_singleton.mp hc
    exact htext value rfl
  | image url title alt => cases h; exact hbare _ _ (by decide)
  | imageReference identifier label alt =>
    rw [Leaf.document?] at h
    split at h <;> cases h <;> exact hbare _ _ (by decide)
  | definition d => cases h
  | footnoteReference identifier label => cases h

theorem contentValue_filled {s : Setting} (hrules : s.rules = Registry.defaultRules) {c : Content}
    {depth : Int} {d : DocNode} (hd : contentValue s depth c = .ok d)
    (hfilled : ∀ m ∈ c.nodes, (Source.Node.content m).Filled) : ∀ m ∈ d.nodes, m.Filled := by
  refine contentValue_induction hrules (motive := fun c d =>
    (∀ m ∈ c.nodes, (Source.Node.content m).Filled) → ∀ m ∈ d.nodes, m.Filled)
    ?_ ?_ ?_ ?_ hd hfilled
  · exact fun l d hl hfilled => document?_filled hl (hfilled _ (Content.self_mem_nodes _))
  · intro p make cs ds hform hds hfilled
    have hchildren := Content.filled_parent_iff.mp (hfilled _ (Content.self_mem_nodes _))
    have hne : ds ≠ [] := by
      rintro rfl
      exact hchildren (List.forall₂_nil_right_iff.mp hds)
    refine DocNode.filled_of_form? hform hne fun d hd => ?_
    obtain ⟨c, hc, hd⟩ := exists_of_forall₂ hds hd
    exact hd fun m hm => hfilled m (Content.mem_nodes_of_mem hc hm)
  · intro p m hform hfilled
    exact absurd rfl (Content.filled_parent_iff.mp (hfilled _ (Content.self_mem_nodes _)))
  · intro p m c rest d hform hd hfilled
    refine DocNode.filled_applyMark (hd fun m hm => ?_) m
    exact hfilled m (Content.mem_nodes_of_mem List.mem_cons_self hm)

/-- With cascade, dropping nodes leaves nothing empty in a tree with nothing empty in it. With the
default rules and no limit on the depth, it then has a document without an empty text and without
an empty block. -/
theorem transform_filled (p : Process) (cs : List Content) (hdefault : p.registry.IsDefault)
    (hlimit : p.options.maxDepth = none) (hcascade : p.options.cascade = true)
    (hignores : Options.defaultIgnores ⊆ p.options.ignores)
    (hfilled : ∀ c ∈ Content.nodesOf cs, (Source.Node.content c).Filled) :
    (∀ c ∈ Content.nodesOf (p.filtered (.root cs)).children, (Source.Node.content c).Filled) ∧
    ∃ d, (transform (.root cs) p).1 = .ok d ∧ ∀ m ∈ d.nodes, m.Filled := by
  have hrules : (p.setting (.root cs)).rules = Registry.defaultRules := hdefault.rules
  have hfiltered : p.filtered (.root cs) =
      .root (cs.filterMap (Content.kept p.options.ignores true)) := by
    rw [Process.filtered, Source.remove_root, hcascade]
  have hleft : ∀ c ∈ cs.filterMap (Content.kept p.options.ignores true), ∀ m ∈ c.nodes,
      (Source.Node.content m).Filled := by
    rw [Content.nodesOf_eq_flatMap, List.forall_mem_flatMap] at hfilled
    intro c hc
    obtain ⟨source, hsource, hkept⟩ := List.mem_filterMap.mp hc
    exact Content.filled_of_kept (hfilled source hsource) hkept
  constructor
  · rwa [hfiltered, Source.Node.children, Content.nodesOf_eq_flatMap, List.forall_mem_flatMap]
  · obtain ⟨d, hd⟩ := hdefault.exists_transform_eq_ok hlimit hignores cs
    refine ⟨d, hd, ?_⟩
    rw [transform_eq_value hdefault.coherent (Setting.plain_default hrules), hfiltered] at hd
    obtain ⟨ds, rfl, hds⟩ := treeValue_root_ok hrules
      (fun c hc d hd => contentValue_filled hrules hd (hleft c hc)) hd
    refine DocNode.filled_around (by decide) fun d hd => ?_
    obtain ⟨c, -, hinner⟩ := exists_of_forall₂ hds hd
    exact hinner

def quoted : List Content :=
  [.parent .blockquote [.parent .paragraph [.parent (.link "u" none)
      [.leaf (.footnoteReference "1" none)]]],
    .parent (.list true none) [.parent .listItem [.parent .paragraph [.text "a"]]],
    .parent (.footnoteDefinition "1" none) [.text "b"]]

theorem quoted_filled :
    usual.registry.IsDefault ∧ usual.options.maxDepth = none ∧ usual.options.cascade = true ∧
    Options.defaultIgnores ⊆ usual.options.ignores ∧
    (∀ c ∈ Content.nodesOf quoted, (Source.Node.content c).Filled) ∧
    usual.filtered (.root quoted) = .root [.parent (.list true none)
      [.parent .listItem [.parent .paragraph [.text "a"]]]] ∧
    (∀ c ∈ Content.nodesOf (usual.filtered (.root quoted)).children,
      (Source.Node.content c).Filled) ∧
    ∃ d, (transform (.root quoted) usual).1 = .ok d ∧ ∀ m ∈ d.nodes, m.Filled := by
  have hfilled : ∀ c ∈ Content.nodesOf quoted, (Source.Node.content c).Filled := by
    simp [quoted, Content.nodesOf, Content.nodes, Source.Node.Filled, Source.Node.value?,
      Source.Node.children?]
  exact ⟨Registry.isDefault_default, rfl, rfl, List.Subset.refl _, hfilled, rfl,
    transform_filled usual quoted Registry.isDefault_default rfl rfl (List.Subset.refl _) hfilled⟩

end RichMarkdown
