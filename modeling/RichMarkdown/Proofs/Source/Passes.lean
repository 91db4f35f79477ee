import RichMarkdown.Proofs.Source.Survivors

/-! Dropping types of nodes in several passes over a tree. -/
namespace RichMarkdown.Source

variable {first second both : List String} {cascade : Bool}

namespace Content

theorem filterMap_kept_kept {cs : List Content} (h : ∀ c ∈ cs,
      (c.kept first cascade).bind (kept second cascade) = c.kept both cascade) :
    (cs.filterMap (kept first cascade)).filterMap (kept second cascade) =
      cs.filterMap (kept both cascade) := by
  rw [List.filterMap_filterMap]
  exact List.filterMap_congr h

/-- A parent that loses its last child in one of two passes loses all of them in the joint one. The
second pass finds no parent that the first has emptied, since with `cascade` that one is gone. -/
theorem emptied_passes {cs : List Content}
    (h : (cs.filterMap (kept first cascade)).filterMap (kept second cascade) =
      cs.filterMap (kept both cascade)) :
    emptied both cs cascade =
      (emptied first cs cascade || emptied second (cs.filterMap (kept first cascade)) cascade) := by
  rw [emptied, emptied, emptied, h]
  cases hcs : cs.isEmpty with
  | true =>
    rw [List.isEmpty_iff.mp hcs]
    rfl
  | false =>
    cases hfirst : (cs.filterMap (kept first cascade)).isEmpty with
    | false => rfl
    | true =>
      rw [← h, List.isEmpty_iff.mp hfirst]
      rfl

/-- What two passes leave of a node is what one pass over the types of both leaves. -/
theorem kept_bind_kept (hboth : ∀ type, type ∈ both ↔ type ∈ first ∨ type ∈ second) (c : Content) :
    (c.kept first cascade).bind (kept second cascade) = c.kept both cascade := by
  have hlisted : ∀ type, both.contains type = (first.contains type || second.contains type) := by
    intro type
    rw [Bool.eq_iff_iff]
    simpa using hboth type
  induction c with
  | leaf l =>
    rw [kept_leaf, kept_leaf, hlisted]
    cases hfirst : first.contains l.type with
    | true => rfl
    | false => exact kept_leaf l
  | parent p cs ih =>
    have hbelow := filterMap_kept_kept ih
    have hreasons : ((first.contains p.type || second.contains p.type) || (cascade &&
        (emptied first cs cascade ||
          emptied second (cs.filterMap (kept first cascade)) cascade))) =
        ((first.contains p.type || (cascade && emptied first cs cascade)) ||
          (second.contains p.type || (cascade &&
            emptied second (cs.filterMap (kept first cascade)) cascade))) := by
      rw [Bool.and_or_distrib_left]
      ac_rfl
    rw [kept_parent, kept_parent, hlisted, emptied_passes hbelow, hreasons]
    cases first.contains p.type || (cascade && emptied first cs cascade) with
    | true => rfl
    | false =>
      rw [if_neg Bool.false_ne_true, Option.bind_some, kept_parent, hbelow, Bool.false_or]

end Content

namespace Node

theorem eq_of_bare {n m : Node} (hbare : n.bare = m.bare) (hchildren : n.children = m.children) :
    n = m := by
  cases n with
  | root cs =>
    cases m with
    | root ds => exact congrArg root hchildren
    | content d => cases d <;> cases hbare
  | content c =>
    cases m with
    | root ds => cases c <;> cases hbare
    | content d =>
      cases c <;> cases d <;> cases hbare
      · rfl
      · exact congrArg (fun cs => content (.parent _ cs)) hchildren

theorem remove_remove (hboth : ∀ type, type ∈ both ↔ type ∈ first ∨ type ∈ second) (n : Node) :
    ((n.remove first cascade).1.remove second cascade).1 = (n.remove both cascade).1 := by
  apply eq_of_bare
  · rw [bare_remove, bare_remove, bare_remove]
  · rw [children_remove, children_remove, children_remove]
    exact Content.filterMap_kept_kept fun c _ => Content.kept_bind_kept hboth c

variable {types : List String}

theorem snd_remove_eq_zero {n : Node} (h : ∀ c ∈ Content.nodesOf n.children, c.type ∉ types) :
    (n.remove types cascade).2 = 0 := by
  induction n using Node.induction with
  | step n ih =>
    rw [snd_remove]
    refine List.sum_eq_zero_iff_forall_eq_nat.mpr fun dropped hdropped => ?_
    obtain ⟨c, hc, rfl⟩ := List.mem_map.mp hdropped
    have hbelow : ∀ m ∈ c.nodes, m.type ∉ types := by
      intro m hm
      refine h m ?_
      rw [Content.nodesOf_eq_flatMap]
      exact List.mem_flatMap_of_mem hc hm
    rw [if_neg (hbelow c c.self_mem_nodes)]
    refine ih c hc fun m hm => hbelow m ?_
    rw [Content.nodes_eq]
    exact List.mem_cons_of_mem c hm

theorem remove_again {again : List String} (hagain : again ⊆ types) (n : Node) :
    (n.remove types cascade).1.remove again cascade = ((n.remove types cascade).1, 0) := by
  have hboth : ∀ type, type ∈ types ↔ type ∈ types ∨ type ∈ again :=
    fun type => ⟨.inl, fun h => h.elim id fun hmem => hagain hmem⟩
  refine Prod.ext (remove_remove hboth n) (snd_remove_eq_zero fun m hm hlisted => ?_)
  exact type_not_mem_of_remove m hm (hagain hlisted)

/-- Two passes over a tree leave what one pass with the types of both leaves, in whichever order
they come, and a pass with types that are dropped already drops nothing. -/
theorem remove_passes (n : Node) (cascade : Bool) (first second both : List String)
    (hboth : ∀ type, type ∈ both ↔ type ∈ first ∨ type ∈ second) :
    ((n.remove first cascade).1.remove second cascade).1 = (n.remove both cascade).1 ∧
    ((n.remove first cascade).1.remove second cascade).1 =
      ((n.remove second cascade).1.remove first cascade).1 ∧
    ∀ again ⊆ first,
      (n.remove first cascade).1.remove again cascade = ((n.remove first cascade).1, 0) := by
  have hswapped : ∀ type, type ∈ both ↔ type ∈ second ∨ type ∈ first :=
    fun type => (hboth type).trans or_comm
  refine ⟨remove_remove hboth n, ?_, fun again hagain => remove_again hagain n⟩
  rw [remove_remove hboth, remove_remove hswapped]

def jotted : Node :=
  root [.parent .paragraph [.text "a", .parent .emphasis [.leaf (.inlineCode "x")]],
    .parent .listItem []]

theorem jotted_passes :
    (∀ type, type ∈ ["inlineCode", "text"] ↔ type ∈ ["text"] ∨ type ∈ ["inlineCode"]) ∧
    (jotted.remove ["text"] true).1 = root [.parent .paragraph
      [.parent .emphasis [.leaf (.inlineCode "x")]], .parent .listItem []] ∧
    ((jotted.remove ["text"] true).1.remove ["inlineCode"] true).1 =
      (jotted.remove ["inlineCode", "text"] true).1 ∧
    ((jotted.remove ["text"] true).1.remove ["inlineCode"] true).1 =
      ((jotted.remove ["inlineCode"] true).1.remove ["text"] true).1 ∧
    (jotted.remove ["inlineCode", "text"] true).1 = root [.parent .listItem []] ∧
    (jotted.remove ["text"] true).1.remove ["text"] true =
      ((jotted.remove ["text"] true).1, 0) := by
  have hboth : ∀ type, type ∈ ["inlineCode", "text"] ↔
      type ∈ ["text"] ∨ type ∈ ["inlineCode"] := by
    intro type
    simp [or_comm]
  obtain ⟨hjoint, hswapped, hagain⟩ := remove_passes jotted true ["text"] ["inlineCode"]
    ["inlineCode", "text"] hboth
  exact ⟨hboth, rfl, hjoint, hswapped, rfl, hagain _ (List.Subset.refl _)⟩

end Node

end RichMarkdown.Source
