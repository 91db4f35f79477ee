import RichMarkdown.Proofs.Rule.Standard

/-! Documents and source trees without marks. Under the default rules a tree whose formatting is
erased becomes the document of the tree itself with all marks taken away. -/
namespace RichMarkdown

open Source (Content Leaf Parent)

namespace Source

def Parent.formats : Parent → Bool
  | emphasis | strong | delete | link .. => true
  | _ => false

mutual

/-- The tree without formatting. What formats makes way for its first child, or for empty text if it
has none, and inline code is text. -/
def Content.erased : Content → Content
  | .leaf (.inlineCode value) => .text value
  | .leaf l => .leaf l
  | .parent p cs =>
    let below := Content.erasedOf cs
    if p.formats then below.headD (.text "") else .parent p below

def Content.erasedOf : List Content → List Content
  | [] => []
  | c :: rest => c.erased :: Content.erasedOf rest

end

namespace Content

theorem erasedOf_eq_map (cs : List Content) : erasedOf cs = cs.map erased := by
  induction cs with
  | nil => rfl
  | cons c rest ih => rw [erasedOf, ih, List.map_cons]

theorem erased_of_formats {p : Parent} (h : p.formats = true) (cs : List Content) :
    (parent p cs).erased = (cs.map erased).headD (.text "") := by
  rw [erased, erasedOf_eq_map]
  exact if_pos h

theorem erased_of_not_formats {p : Parent} (h : p.formats = false) (cs : List Content) :
    (parent p cs).erased = parent p (cs.map erased) := by
  rw [erased, erasedOf_eq_map]
  exact if_neg (by rw [h]; exact Bool.false_ne_true)

end Content

def Node.erased : Node → Node
  | .root cs => .root (cs.map Content.erased)
  | .content c => .content c.erased

end Source

namespace DocNode

mutual

def unmarked : DocNode → DocNode
  | ⟨type, attrs, content, _, text⟩ =>
    let content := match content with
      | some ds => some (unmarkedAll ds)
      | none => none
    { type, attrs, content, text }

def unmarkedAll : List DocNode → List DocNode
  | [] => []
  | d :: rest => d.unmarked :: unmarkedAll rest

end

theorem unmarkedAll_eq_map (ds : List DocNode) : unmarkedAll ds = ds.map unmarked := by
  induction ds with
  | nil => rfl
  | cons d rest ih => rw [unmarkedAll, ih, List.map_cons]

theorem unmarked_eq (d : DocNode) :
    d.unmarked = { d with content := d.content.map (List.map unmarked), marks := none } := by
  obtain ⟨type, attrs, content, marks, text⟩ := d
  cases content with
  | none => rfl
  | some ds => rw [unmarked, unmarkedAll_eq_map, Option.map_some]

@[simp] theorem unmarked_applyMark (m : Mark) (d : DocNode) :
    (d.applyMark m).unmarked = d.unmarked := by
  rw [unmarked_eq, unmarked_eq d]
  rfl

@[simp] theorem unmarked_ofText (value : String) : (ofText value).unmarked = ofText value :=
  unmarked_eq _

@[simp] theorem unmarked_around (type : String) (ds : List DocNode) :
    (around type ds).unmarked = around type (ds.map unmarked) := by
  rw [unmarked_eq]
  cases ds <;> rfl

end DocNode

theorem Source.Parent.formats_eq {p : Parent} {form : Form} (h : p.form? = some form) :
    p.formats = match form with
      | .mark _ => true
      | .block _ => false := by
  cases p <;> cases h <;> rfl

theorem form?_unmarked {p : Parent} {make : List DocNode → DocNode}
    (h : p.form? = some (.block make)) (ds : List DocNode) :
    (make ds).unmarked = make (ds.map DocNode.unmarked) := by
  cases p with
  | heading level => cases h; exact DocNode.unmarked_eq _
  | list ordered start => cases h; exact DocNode.unmarked_eq _
  | _ => cases h <;> exact DocNode.unmarked_around _ ds

theorem document?_erased {sources : Entries Source.Definition} {l : Leaf} {d : DocNode}
    (h : l.document? sources = some d) :
    ∃ l', (Content.leaf l).erased = .leaf l' ∧ l'.document? sources = some d.unmarked := by
  cases l with
  | text value => cases h; exact ⟨_, rfl, congrArg some (DocNode.unmarked_ofText value).symm⟩
  | inlineCode value => cases h; exact ⟨_, rfl, rfl⟩
  | imageReference identifier label alt =>
    refine ⟨_, rfl, ?_⟩
    rw [Leaf.document?] at h ⊢
    cases hd : sources.get? identifier <;> rw [hd] at h <;> cases h <;> rfl
  | _ => cases h <;> exact ⟨_, rfl, rfl⟩

variable {s : Setting}

theorem Setting.within_unlimited (hlimit : s.limit = none) (level : Int) (result : Result) :
    s.within level result = result := by
  apply within_of_le
  intro limit hsome
  rw [hlimit] at hsome
  cases hsome

theorem exists_map_ok {α : Type} {cs : List α} {f g : α → Result}
    (h : ∀ c ∈ cs, ∃ d, f c = .ok d ∧ g c = .ok d.unmarked) :
    ∃ ds : List DocNode, cs.map f = ds.map .ok ∧ cs.map g = (ds.map DocNode.unmarked).map .ok := by
  induction cs with
  | nil => exact ⟨[], rfl, rfl⟩
  | cons c rest ih =>
    obtain ⟨d, hf, hg⟩ := h c List.mem_cons_self
    obtain ⟨ds, hfs, hgs⟩ := ih fun c hc => h c (List.mem_cons_of_mem _ hc)
    refine ⟨d :: ds, ?_, ?_⟩
    · rw [List.map_cons, List.map_cons, hf, hfs]
    · rw [List.map_cons, List.map_cons, List.map_cons, hg, hgs]

theorem Form.block_result (make : List DocNode → DocNode) (ds : List DocNode) :
    (block make).result (ds.map .ok) = .ok (make ds) := by
  rw [result, Result.mapM_id_eq_ok_iff.mpr rfl]
  rfl

theorem contentValue_erased (hrules : s.rules = Registry.defaultRules) (hlimit : s.limit = none)
    {c : Content} (hknown : ∀ m ∈ c.nodes, m.type ∉ Options.defaultIgnores) (depth depth' : Int) :
    ∃ d, contentValue s depth c = .ok d ∧ contentValue s depth' c.erased = .ok d.unmarked := by
  have hwithin := Setting.within_unlimited hlimit
  induction c generalizing depth depth' with
  | leaf l =>
    cases hd : l.document? s.sources with
    | none =>
      have hlisted := (document?_eq_none_iff s.sources l).mp hd
      exact absurd hlisted (hknown _ (Content.self_mem_nodes _))
    | some d =>
      obtain ⟨l', herased, hd'⟩ := document?_erased hd
      refine ⟨d, ?_, ?_⟩
      · rw [contentValue_leaf hrules, hd]
        exact hwithin _ _
      · rw [herased, contentValue_leaf hrules, hd']
        exact hwithin _ _
  | parent p cs ih =>
    have hbelow : ∀ depth depth', ∀ c ∈ cs, ∃ d,
        contentValue s depth c = .ok d ∧ contentValue s depth' c.erased = .ok d.unmarked :=
      fun depth depth' c hc =>
        ih c hc (fun m hm => hknown m (Content.mem_nodes_of_mem hc hm)) depth depth'
    rw [contentValue_parent hrules]
    cases hform : p.form? with
    | none =>
      have hlisted := (form?_eq_none_iff p).mp hform
      exact absurd hlisted (hknown _ (Content.self_mem_nodes _))
    | some form =>
      dsimp only
      rw [hwithin]
      cases form with
      | block make =>
        obtain ⟨ds, hds, hds'⟩ := exists_map_ok (hbelow (depth + 1) (depth' + 1))
        refine ⟨make ds, ?_, ?_⟩
        · rw [hds, Form.block_result]
        · rw [Content.erased_of_not_formats (Parent.formats_eq hform), contentValue_parent hrules,
            hform]
          dsimp only
          rw [hwithin, List.map_map, Function.comp_def, hds', Form.block_result,
            form?_unmarked hform]
      | mark m =>
        rw [Content.erased_of_formats (Parent.formats_eq hform)]
        cases cs with
        | nil =>
          refine ⟨_, rfl, ?_⟩
          rw [DocNode.unmarked_applyMark, DocNode.unmarked_ofText]
          exact (contentValue_leaf hrules depth' _).trans (hwithin _ _)
        | cons first rest =>
          obtain ⟨d, hd, hd'⟩ := hbelow (depth + 1) depth' first List.mem_cons_self
          refine ⟨d.applyMark m, ?_, ?_⟩
          · rw [List.map_cons, hd]
            rfl
          · rw [DocNode.unmarked_applyMark]
            exact hd'

theorem treeValue_erased (hrules : s.rules = Registry.defaultRules) (hlimit : s.limit = none)
    {n : Source.Node} (hknown : ∀ m ∈ n.nodes, m.type ∉ Options.defaultIgnores) (depth : Int) :
    ∃ d, treeValue s depth n = .ok d ∧ treeValue s depth n.erased = .ok d.unmarked := by
  have hcontent : ∀ m ∈ Content.nodesOf n.children, m.type ∉ Options.defaultIgnores :=
    fun m hm => hknown (.content m) (List.mem_cons_of_mem _ (List.mem_map_of_mem hm))
  cases n with
  | content c =>
    refine contentValue_erased hrules hlimit (fun m hm => ?_) depth depth
    rcases List.mem_cons.mp ((Content.nodes_eq c) ▸ hm) with rfl | hm
    · exact hknown _ List.mem_cons_self
    · exact hcontent m hm
  | root cs =>
    have hwithin := Setting.within_unlimited hlimit
    have hbelow : ∀ c ∈ cs, ∃ d, contentValue s (depth + 1) c = .ok d ∧
        contentValue s (depth + 1) c.erased = .ok d.unmarked := by
      refine fun c hc => contentValue_erased hrules hlimit (fun m hm => hcontent m ?_) _ _
      rw [Content.nodesOf_eq_flatMap]
      exact List.mem_flatMap_of_mem hc hm
    obtain ⟨ds, hds, hds'⟩ := exists_map_ok hbelow
    refine ⟨.around "doc" ds, ?_, ?_⟩
    · rw [treeValue_root hrules, hwithin, hds]
      exact Form.block_result (.around "doc") ds
    · rw [Source.Node.erased, treeValue_root hrules, hwithin, List.map_map, Function.comp_def, hds',
        DocNode.unmarked_around]
      exact Form.block_result (.around "doc") _

/-- With the default rules and no limit on the depth, the conversion of a tree of known kinds gives
a document, and that of the tree without formatting gives the same document without marks. -/
theorem convert_erased (p : Process) (tree : Source.Node) (hdefault : p.registry.IsDefault)
    (hlimit : p.options.maxDepth = none)
    (hknown : ∀ m ∈ tree.walk, m.type ∉ Options.defaultIgnores) :
    ∃ d, (convert tree p).1 = .ok d ∧ (convert tree.erased p).1 = .ok d.unmarked := by
  have hvalue := convert_eq_value hdefault.coherent (p := p) (Setting.plain_default hdefault.rules)
  rw [Source.Node.walk_eq_nodes] at hknown
  rw [hvalue, hvalue]
  exact treeValue_erased (s := p.current) hdefault.rules hlimit hknown p.depth

def decorated : Source.Node :=
  .content (.parent .blockquote
    [.parent .strong [.parent (.link "u" none) [.leaf (.inlineCode "x"), .leaf .hardBreak]],
      .parent .emphasis [],
      .parent .delete [.parent .paragraph [.leaf (.imageReference "a" none none)]]])

def unlimited : Process :=
  { options := ⟨[], false, none⟩, registry := .default, depth := 2,
    sources := [("a", ⟨"a", none, "src", some "A"⟩)] }

theorem decorated_erased :
    unlimited.registry.IsDefault ∧ unlimited.options.maxDepth = none ∧
    (∀ m ∈ decorated.walk, m.type ∉ Options.defaultIgnores) ∧
    decorated.erased = .content (.parent .blockquote
      [.text "x", .text "", .parent .paragraph [.leaf (.imageReference "a" none none)]]) ∧
    ∃ d, (convert decorated unlimited).1 = .ok d ∧
      (convert decorated.erased unlimited).1 = .ok d.unmarked := by
  have hdefault : unlimited.registry.IsDefault := Registry.isDefault_default
  have hknown : ∀ m ∈ decorated.walk, m.type ∉ Options.defaultIgnores := by
    rw [Source.Node.walk_eq_nodes]
    decide
  exact ⟨hdefault, rfl, hknown, rfl, convert_erased unlimited decorated hdefault rfl hknown⟩

end RichMarkdown
