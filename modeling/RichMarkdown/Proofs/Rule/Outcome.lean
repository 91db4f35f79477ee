import Mathlib.Data.List.Forall2
import RichMarkdown.Proofs.Rule.Defaults

/-! How conversions with the default rules end: with an error only at the limit on the depth, if the
kinds without a rule are dropped, and else with a document that has what the nodes for all leaves
have and all forms preserve. -/
namespace RichMarkdown

open Source (Content Leaf Parent)

variable {s : Setting}

theorem Form.error_mem_of_result {form : Form} {results : List Result} {e : ConvertError}
    (h : form.result results = .error e) : .error e ∈ results := by
  cases form with
  | block make => exact Result.error_mem_of_map_mapM_id h
  | mark m =>
    cases results with
    | nil => cases h
    | cons first rest =>
      cases first with
      | error e' => cases h; exact List.mem_cons_self
      | ok d => cases h

theorem contentValue_error (hrules : s.rules = Registry.defaultRules) {c : Content}
    (hknown : ∀ m ∈ c.nodes, m.type ∉ Options.defaultIgnores) {depth : Int} {e : ConvertError}
    (he : contentValue s depth c = .error e) :
    ∃ limit, s.limit = some limit ∧ e = .tooDeep limit := by
  induction c generalizing depth with
  | leaf l =>
    rw [contentValue_leaf hrules] at he
    cases hl : l.document? s.sources with
    | none =>
      have hlisted := (document?_eq_none_iff s.sources l).mp hl
      exact absurd hlisted (hknown _ (Content.self_mem_nodes _))
    | some d =>
      rw [hl] at he
      rcases Setting.within_eq_error he with hok | hlimit
      · cases hok
      · exact hlimit
  | parent p cs ih =>
    rw [contentValue_parent hrules] at he
    cases hp : p.form? with
    | none =>
      have hlisted := (form?_eq_none_iff p).mp hp
      exact absurd hlisted (hknown _ (Content.self_mem_nodes _))
    | some form =>
      rw [hp] at he
      rcases Setting.within_eq_error he with hbelow | hlimit
      · obtain ⟨c, hc, hvalue⟩ := List.mem_map.mp (Form.error_mem_of_result hbelow)
        exact ih c hc (fun m hm => hknown m (Content.mem_nodes_of_mem hc hm)) hvalue
      · exact hlimit

theorem Result.forall₂_of_map_eq {R : Content → DocNode → Prop} {f : Content → Result}
    {cs : List Content} {ds : List DocNode} (h : ∀ c ∈ cs, ∀ d, f c = .ok d → R c d)
    (hds : cs.map f = ds.map .ok) : List.Forall₂ R cs ds := by
  induction cs generalizing ds with
  | nil =>
    cases ds with
    | nil => exact .nil
    | cons d ds => cases hds
  | cons c rest ih =>
    cases ds with
    | nil => cases hds
    | cons d ds =>
      obtain ⟨hd, hrest⟩ := List.cons.inj hds
      exact .cons (h c List.mem_cons_self d hd)
        (ih (fun c hc => h c (List.mem_cons_of_mem _ hc)) hrest)

theorem exists_of_forall₂ {α β : Type} {R : α → β → Prop} {as : List α} {bs : List β}
    (h : List.Forall₂ R as bs) {b : β} (hb : b ∈ bs) : ∃ a ∈ as, R a b := by
  induction h with
  | nil => cases hb
  | @cons a first as bs hfirst hrest ih =>
    rcases List.mem_cons.mp hb with rfl | hb
    · exact ⟨a, List.mem_cons_self, hfirst⟩
    · obtain ⟨a, ha, hab⟩ := ih hb
      exact ⟨a, List.mem_cons_of_mem _ ha, hab⟩

/-- Induction over the nodes below the top that have a document, each with its own: a leaf, a block
with a document for each child, a mark around nothing, or a mark around a first child. -/
theorem contentValue_induction (hrules : s.rules = Registry.defaultRules)
    {motive : Content → DocNode → Prop}
    (leaf : ∀ l d, Leaf.document? s.sources l = some d → motive (.leaf l) d)
    (block : ∀ p make cs ds, Parent.form? p = some (.block make) → List.Forall₂ motive cs ds →
      motive (.parent p cs) (make ds))
    (bare : ∀ p m, Parent.form? p = some (.mark m) →
      motive (.parent p []) ((DocNode.ofText "").applyMark m))
    (mark : ∀ p m c rest d, Parent.form? p = some (.mark m) → motive c d →
      motive (.parent p (c :: rest)) (d.applyMark m))
    {c : Content} {depth : Int} {d : DocNode} (hd : contentValue s depth c = .ok d) :
    motive c d := by
  induction c generalizing depth d with
  | leaf l =>
    rw [contentValue_leaf hrules] at hd
    cases hl : l.document? s.sources with
    | none => rw [hl] at hd; cases hd
    | some made =>
      rw [hl] at hd
      cases Setting.within_eq_ok hd
      exact leaf l _ hl
  | parent p cs ih =>
    rw [contentValue_parent hrules] at hd
    cases hform : p.form? with
    | none => rw [hform] at hd; cases hd
    | some form =>
      rw [hform] at hd
      replace hd := Setting.within_eq_ok hd
      cases form with
      | block make =>
        obtain ⟨ds, hds, rfl⟩ := Result.eq_of_map_mapM_id hd
        exact block p make cs ds hform
          (Result.forall₂_of_map_eq (fun c hc d hd => ih c hc hd) hds)
      | mark m =>
        cases cs with
        | nil => cases hd; exact bare p m hform
        | cons c rest =>
          rw [List.map_cons, Form.result] at hd
          cases hinner : contentValue s (depth + 1) c with
          | error e => rw [hinner] at hd; cases hd
          | ok inner =>
            rw [hinner] at hd
            cases hd
            exact mark p m c rest inner hform (ih c List.mem_cons_self hinner)

theorem treeValue_root_ok (hrules : s.rules = Registry.defaultRules)
    {R : Content → DocNode → Prop} {cs : List Content} {depth : Int}
    (h : ∀ c ∈ cs, ∀ d, contentValue s (depth + 1) c = .ok d → R c d) {d : DocNode}
    (hd : treeValue s depth (.root cs) = .ok d) :
    ∃ ds, d = .around "doc" ds ∧ List.Forall₂ R cs ds := by
  rw [treeValue_root hrules] at hd
  obtain ⟨ds, hds, rfl⟩ := Result.eq_of_map_mapM_id (Setting.within_eq_ok hd)
  exact ⟨ds, rfl, Result.forall₂_of_map_eq h hds⟩

def Form.Preserves (P : DocNode → Prop) : Form → Prop
  | block make => ∀ ds, (∀ d ∈ ds, P d) → P (make ds)
  | mark m => P ((DocNode.ofText "").applyMark m) ∧ ∀ d, P d → P (d.applyMark m)

/-- A property that the nodes for all leaves have and that all forms preserve is one of every
document of a node below the top. -/
theorem contentValue_invariant (hrules : s.rules = Registry.defaultRules) {P : DocNode → Prop}
    (hleaf : ∀ l d, Leaf.document? s.sources l = some d → P d)
    (hform : ∀ p form, Parent.form? p = some form → form.Preserves P) {c : Content} {depth : Int}
    {d : DocNode} (hd : contentValue s depth c = .ok d) : P d := by
  refine contentValue_induction hrules (motive := fun _ d => P d) hleaf ?_ ?_ ?_ hd
  · intro p make cs ds hp hds
    refine hform p _ hp ds fun d hmem => ?_
    obtain ⟨c, -, hd⟩ := exists_of_forall₂ hds hmem
    exact hd
  · exact fun p m hp => (hform p _ hp).1
  · exact fun p m c rest d hp hd => (hform p _ hp).2 d hd

namespace Registry.IsDefault

variable {p : Process} {cs : List Content}

theorem transform_root (h : p.registry.IsDefault) (cs : List Content) : (transform (.root cs) p).1 =
      (p.setting (.root cs)).within 1
        ((((cs.filterMap (Content.kept p.options.ignores p.options.cascade)).map
          (contentValue (p.setting (.root cs)) 1)).mapM id).map (.around "doc")) := by
  have hrules : (p.setting (.root cs)).rules = defaultRules := h.rules
  rw [transform_eq_value h.coherent (Setting.plain_default hrules), Process.filtered,
    Source.remove_root, treeValue_root hrules]
  rfl

theorem transform_error (h : p.registry.IsDefault)
    (hignores : Options.defaultIgnores ⊆ p.options.ignores) {e : ConvertError}
    (he : (transform (.root cs) p).1 = .error e) :
    ∃ limit, p.options.maxDepth = some limit ∧ e = .tooDeep limit := by
  rw [h.transform_root] at he
  rcases Setting.within_eq_error he with hbelow | hlimit
  · obtain ⟨c, hc, hvalue⟩ := List.mem_map.mp (Result.error_mem_of_map_mapM_id hbelow)
    obtain ⟨source, -, hkept⟩ := List.mem_filterMap.mp hc
    have hknown : ∀ m ∈ c.nodes, m.type ∉ Options.defaultIgnores := fun m hm hlisted =>
      Content.type_not_mem_of_kept hkept m hm (hignores hlisted)
    exact contentValue_error h.rules hknown hvalue
  · exact hlimit

theorem exists_transform_eq_ok (h : p.registry.IsDefault) (hlimit : p.options.maxDepth = none)
    (hignores : Options.defaultIgnores ⊆ p.options.ignores) (cs : List Content) :
    ∃ d, (transform (.root cs) p).1 = .ok d := by
  cases hd : (transform (.root cs) p).1 with
  | ok d => exact ⟨d, rfl⟩
  | error e =>
    obtain ⟨limit, hsome, -⟩ := h.transform_error hignores hd
    rw [hlimit] at hsome
    cases hsome

theorem transform_invariant (h : p.registry.IsDefault) {P : DocNode → Prop}
    (hleaf : ∀ l d, Leaf.document? (Source.Node.root cs).references l = some d → P d)
    (hform : ∀ p form, Parent.form? p = some form → form.Preserves P) {d : DocNode}
    (hd : (transform (.root cs) p).1 = .ok d) :
    ∃ ds, d = .around "doc" ds ∧ ∀ c ∈ ds, P c := by
  rw [h.transform_root] at hd
  obtain ⟨ds, hds, rfl⟩ := Result.eq_of_map_mapM_id (Setting.within_eq_ok hd)
  have hall := Result.forall₂_of_map_eq (R := fun _ d => P d)
    (fun c _ d hd => contentValue_invariant h.rules hleaf hform hd) hds
  refine ⟨ds, rfl, fun d hmem => ?_⟩
  obtain ⟨c, -, hd⟩ := exists_of_forall₂ hall hmem
  exact hd

end Registry.IsDefault

end RichMarkdown
