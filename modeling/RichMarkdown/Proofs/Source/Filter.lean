import RichMarkdown.Proofs.Source.Nodes

/-! What dropping types of nodes leaves of a tree: for each node below the top, what stands in its
place afterwards. -/
namespace RichMarkdown.Source

def Content.kept (types : List String) (cascade : Bool) (c : Content) : Option Content :=
  if types.contains c.type then none else (prune types cascade c).1

variable {types : List String} {cascade : Bool}

theorem pruneAll_eq_filterMap (cs : List Content) :
    (pruneAll types cascade cs).1 = cs.filterMap (Content.kept types cascade) := by
  induction cs with
  | nil => rfl
  | cons c rest ih =>
    rw [pruneAll, List.filterMap_cons, Content.kept, ← ih]
    by_cases hlisted : types.contains c.type
    · simp only [hlisted, ↓reduceIte]
    · simp only [hlisted, Bool.false_eq_true, ↓reduceIte]
      cases (prune types cascade c).1 <;> rfl

namespace Content

def emptied (types : List String) (cs : List Content) (cascade : Bool) : Bool :=
  !cs.isEmpty && (cs.filterMap (kept types cascade)).isEmpty

theorem kept_leaf (l : Leaf) : (leaf l).kept types cascade =
    if types.contains l.type then none else some (leaf l) := rfl

theorem kept_parent (p : Parent) (cs : List Content) : (parent p cs).kept types cascade =
    if types.contains p.type || (cascade && emptied types cs cascade) then none
    else some (parent p (cs.filterMap (kept types cascade))) := by
  have hprune : (prune types cascade (parent p cs)).1 =
      if cascade && emptied types cs cascade then none
      else some (parent p (cs.filterMap (kept types cascade))) := by
    cases cs with
    | nil => simp [prune, emptied]
    | cons c rest =>
      unfold prune
      rw [← pruneAll_eq_filterMap, emptied, ← pruneAll_eq_filterMap]
      simp only [List.isEmpty_cons, Bool.not_false, Bool.true_and]
  rw [kept, hprune, type]
  cases types.contains p.type with
  | true => rfl
  | false => simp only [Bool.false_eq_true, ↓reduceIte, Bool.false_or]

theorem type_not_mem_of_kept {c d : Content} (h : c.kept types cascade = some d) :
    ∀ m ∈ d.nodes, m.type ∉ types := by
  induction c generalizing d with
  | leaf l =>
    rw [kept_leaf] at h
    split at h
    · cases h
    · next hlisted =>
      cases h
      simpa [nodes, type] using hlisted
  | parent p cs ih =>
    rw [kept_parent] at h
    split at h
    · cases h
    · next hstays =>
      cases h
      simp only [Bool.or_eq_true, not_or, List.contains_iff_mem] at hstays
      intro m hm
      rw [nodes, List.mem_cons, nodesOf_eq_flatMap, List.mem_flatMap] at hm
      rcases hm with rfl | ⟨d, hd, hm⟩
      · exact hstays.1
      · obtain ⟨c, hc, hkept⟩ := List.mem_filterMap.mp hd
        exact ih c hc hkept m hm

end Content

theorem remove_root (cs : List Content) : ((Node.root cs).remove types cascade).1 =
    .root (cs.filterMap (Content.kept types cascade)) :=
  congrArg Node.root (pruneAll_eq_filterMap cs)

namespace Node

theorem children_remove (n : Node) : (n.remove types cascade).1.children =
    n.children.filterMap (Content.kept types cascade) := by
  cases n with
  | root cs => exact pruneAll_eq_filterMap cs
  | content c =>
    cases c with
    | leaf l => rfl
    | parent p cs => exact pruneAll_eq_filterMap cs

theorem type_not_mem_of_remove {n : Node} :
    ∀ m ∈ Content.nodesOf (n.remove types cascade).1.children, m.type ∉ types := by
  intro m hm
  rw [children_remove, Content.nodesOf_eq_flatMap] at hm
  obtain ⟨d, hd, hm⟩ := List.mem_flatMap.mp hm
  obtain ⟨c, -, hkept⟩ := List.mem_filterMap.mp hd
  exact Content.type_not_mem_of_kept hkept m hm

end Node

theorem type_not_mem_of_remove_root {cs : List Content} :
    ∀ m ∈ Content.nodesOf ((Node.root cs).remove types cascade).1.children, m.type ∉ types :=
  Node.type_not_mem_of_remove

end RichMarkdown.Source
