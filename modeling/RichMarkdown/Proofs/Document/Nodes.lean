import RichMarkdown.Document.Basic

/-! The nodes of a document, each one before its content. -/
namespace RichMarkdown.DocNode

mutual

def nodes : DocNode → List DocNode
  | ⟨type, attrs, content, marks, text⟩ =>
    let below : List DocNode := match content with
      | some ds => nodesOf ds
      | none => []
    ⟨type, attrs, content, marks, text⟩ :: below

def nodesOf : List DocNode → List DocNode
  | [] => []
  | d :: rest => d.nodes ++ nodesOf rest

end

def inside (d : DocNode) : List DocNode :=
  nodesOf (d.content.getD [])

theorem nodes_eq (d : DocNode) : d.nodes = d :: d.inside := by
  obtain ⟨type, attrs, content, marks, text⟩ := d
  cases content <;> simp [nodes, inside, nodesOf]

theorem nodesOf_eq_flatMap (ds : List DocNode) : nodesOf ds = ds.flatMap nodes := by
  induction ds with
  | nil => rfl
  | cons first rest ih => rw [nodesOf, List.flatMap_cons, ih]

theorem mem_nodesOf {d : DocNode} {ds : List DocNode} :
    d ∈ nodesOf ds ↔ ∃ top ∈ ds, d ∈ top.nodes := by
  rw [nodesOf_eq_flatMap, List.mem_flatMap]

theorem forall_nodes_iff {P : DocNode → Prop} (d : DocNode) :
    (∀ m ∈ d.nodes, P m) ↔ P d ∧ ∀ c ∈ d.content.getD [], ∀ m ∈ c.nodes, P m := by
  rw [nodes_eq, List.forall_mem_cons, inside, nodesOf_eq_flatMap, List.forall_mem_flatMap]

end RichMarkdown.DocNode
