import RichMarkdown.Proofs.Registry.Run
import RichMarkdown.Proofs.Process.Simulation

/-! The order of registration. It decides between rules that claim the same type, and has no other
influence: with disjoint claims, lookups and conversions are the same whatever the order. -/
namespace RichMarkdown

namespace Registry

def Reached (r : Registry) : Prop :=
  ∃ pairs steps, r = (ofPairs pairs).after steps

theorem Reached.coherent {r : Registry} (h : r.Reached) : r.Coherent := by
  obtain ⟨pairs, steps, rfl⟩ := h
  exact (coherent_ofPairs pairs).after steps

/-- No type is claimed by two rules. -/
def Disjoint (r : Registry) : Prop :=
  ∀ p ∈ r.rules, ∀ q ∈ r.rules, ∀ type, type ∈ p.2.claims → type ∈ q.2.claims → p = q

theorem Disjoint.of_subset {r s : Registry} (h : r.Disjoint) (hsub : s.rules ⊆ r.rules) :
    s.Disjoint :=
  fun p hp q hq => h p (hsub hp) q (hsub hq)

theorem Disjoint.firstClaim_eq_some_iff {r : Registry} (h : r.Disjoint) (type : String)
    (p : String × Rule) :
    firstClaim type r.rules = some p ↔ p ∈ r.rules ∧ type ∈ p.2.claims := by
  constructor
  · intro hfirst
    refine ⟨List.mem_of_find?_eq_some hfirst, ?_⟩
    exact ((Registry.firstClaim_eq_some_iff type r.rules p).mp hfirst).1
  · rintro ⟨hp, hclaims⟩
    cases hfirst : firstClaim type r.rules with
    | none => exact absurd hclaims ((firstClaim_eq_none_iff type r.rules).mp hfirst p hp)
    | some q =>
      have hq : q ∈ r.rules := List.mem_of_find?_eq_some hfirst
      have hclaims' := ((Registry.firstClaim_eq_some_iff type r.rules q).mp hfirst).1
      exact congrArg some (h q hq p hp type hclaims' hclaims)

structure Rearranged (r s : Registry) : Prop where
  left : r.Coherent
  right : s.Coherent
  perm : r.rules.Perm s.rules
  disjoint : r.Disjoint

namespace Rearranged

variable {r s : Registry}

theorem firstClaim_eq (h : Rearranged r s) (type : String) :
    firstClaim type r.rules = firstClaim type s.rules := by
  have hdisjoint : s.Disjoint := h.disjoint.of_subset h.perm.symm.subset
  ext p
  rw [h.disjoint.firstClaim_eq_some_iff, hdisjoint.firstClaim_eq_some_iff, h.perm.mem_iff]

theorem find (h : Rearranged r s) (type : String) :
    Rearranged (r.find type).2 (s.find type).2 where
  left := h.left.find type
  right := h.right.find type
  perm := by simpa using h.perm
  disjoint := h.disjoint.of_subset (by simp)

theorem remove (h : Rearranged r s) (name : String) : Rearranged (r.remove name) (s.remove name)
    where
  left := h.left.remove name
  right := h.right.remove name
  perm := by
    rw [remove_rules, remove_rules, Entries.erase_eq_filter h.left.distinct,
      Entries.erase_eq_filter h.right.distinct]
    exact h.perm.filter _
  disjoint := by
    apply h.disjoint.of_subset
    rw [remove_rules]
    exact (Entries.erase_sublist name r.rules).subset

end Rearranged

theorem rearranged_bisimulation : Bisimulation Rearranged where
  find h type := by
    refine ⟨?_, h.find type⟩
    rw [h.left.find_eq, h.right.find_eq, h.firstClaim_eq]
  remove h name := h.remove name

end Registry

/-- Two registries of the same rules, of which no two claim the same type, answer every lookup
alike whatever the order of registration. Conversions with them end alike as well, whatever
children they convert and rules they remove, and leave the same definitions, the same depth, the
same tree and the same names of rules. -/
theorem transform_any_order {p q : Process} (hp : p.registry.Reached) (hq : q.registry.Reached)
    (hoptions : p.options = q.options) (hrules : p.registry.rules.Perm q.registry.rules)
    (hdisjoint : p.registry.Disjoint) (room : Nat) (tree : Source.Node) :
    (∀ type, ∃ found, (p.registry.find type).1 = .ok found ∧
      (q.registry.find type).1 = .ok found) ∧
    (transformWithin room tree p).1 = (transformWithin room tree q).1 ∧
    p.filtered tree = q.filtered tree ∧
    (transformWithin room tree p).2.sources = (transformWithin room tree q).2.sources ∧
    (transformWithin room tree p).2.depth = (transformWithin room tree q).2.depth ∧
    (transformWithin room tree p).2.registry.names.Perm
      (transformWithin room tree q).2.registry.names := by
  have hregistry : Registry.Rearranged p.registry q.registry :=
    ⟨hp.coherent, hq.coherent, hrules, hdisjoint⟩
  obtain ⟨hresult, hstate⟩ :=
    transformWithin_agree Registry.rearranged_bisimulation room tree hoptions hregistry
  refine ⟨fun type => ?_, hresult, ?_, hstate.sources, hstate.depth,
    hstate.registry.perm.map Prod.fst⟩
  · refine ⟨Registry.firstClaim type p.registry.rules, ?_, ?_⟩
    · rw [hregistry.left.find_eq]
    · rw [hregistry.right.find_eq, hregistry.firstClaim_eq]
  · rw [Process.filtered, Process.filtered, hoptions]

def spendthriftRules : List (String × Rule) :=
  [("doc", Registry.nodeRule "root"),
    ("once", Registry.nodeRule "paragraph" (some fun node =>
      .children node fun ds => .dropRule "text" (.done { type := "once", content := some ds }))),
    ("text", Registry.nodeRule "text" (some Conversion.text))]

def spendthrift : Process :=
  { options := .default, registry := .ofPairs spendthriftRules }

def spendthriftReversed : Process :=
  { options := .default
    registry := (Registry.ofPairs spendthriftRules.reverse).after [.find "root"] }

def twoParagraphs : Source.Node :=
  .root [.parent .paragraph [.text "a"], .parent .paragraph [.text "b"]]

theorem spendthrift_any_order :
    spendthrift.registry.rules.Perm spendthriftReversed.registry.rules ∧
    spendthrift.registry.Disjoint ∧
    (transform twoParagraphs spendthrift).1 = (transform twoParagraphs spendthriftReversed).1 ∧
    (transform twoParagraphs spendthriftReversed).1.isOk = false ∧
    (transform twoParagraphs spendthriftReversed).2.registry.names.Perm ["doc", "once"] := by
  have hrules : spendthrift.registry.rules.Perm spendthriftReversed.registry.rules :=
    (List.reverse_perm spendthriftRules).symm
  have hdisjoint : spendthrift.registry.Disjoint := by
    intro p hp q hq type hclaims hclaims'
    change p ∈ spendthriftRules at hp
    change q ∈ spendthriftRules at hq
    simp only [spendthriftRules, List.mem_cons, List.not_mem_nil, or_false] at hp hq
    rcases hp with rfl | rfl | rfl <;> rcases hq with rfl | rfl | rfl <;>
      simp_all [Registry.nodeRule]
  have hreached : spendthrift.registry.Reached := ⟨spendthriftRules, [], rfl⟩
  have hreached' : spendthriftReversed.registry.Reached :=
    ⟨spendthriftRules.reverse, [.find "root"], rfl⟩
  obtain ⟨-, hsame, -, -, -, hperm⟩ :=
    transform_any_order hreached hreached' rfl hrules hdisjoint furtherLimit twoParagraphs
  rw [← transform] at hsame hperm
  have hfails : (transform twoParagraphs spendthrift).1.isOk = false := by decide +kernel
  have hnames : (transform twoParagraphs spendthrift).2.registry.names = ["doc", "once"] := by
    decide +kernel
  refine ⟨hrules, hdisjoint, hsame, ?_, ?_⟩
  · rw [← hsame, hfails]
  · rw [← hnames]
    exact hperm.symm

end RichMarkdown
