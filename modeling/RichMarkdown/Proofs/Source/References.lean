import Mathlib.Data.List.Basic
import Mathlib.Data.List.Induction
import RichMarkdown.Proofs.Source.Nodes

/-! The reference index of a source tree: which identifiers are in it, in which order, and which
definition each of them has. -/
namespace RichMarkdown

namespace Entries

variable {α : Type}

theorem ofPairs_concat (pairs : List (String × α)) (p : String × α) :
    ofPairs (pairs ++ [p]) = (ofPairs pairs).put p.1 p.2 := by
  unfold ofPairs
  rw [List.foldl_append, List.foldl_cons, List.foldl_nil]

theorem mem_keys_put_iff {key other : String} {value : α} {es : Entries α} :
    other ∈ (es.put key value).keys ↔ other = key ∨ other ∈ es.keys := by
  rw [← has_iff_mem_keys, ← has_iff_mem_keys, has, has, get?_put]
  by_cases h : key = other
  · simp [h]
  · simp [h, Ne.symm h]

theorem mem_keys_ofPairs_iff {pairs : List (String × α)} {key : String} :
    key ∈ (ofPairs pairs).keys ↔ key ∈ pairs.map (·.1) := by
  induction pairs using List.reverseRecOn with
  | nil => rfl
  | append_singleton pairs p ih =>
    rw [ofPairs_concat, mem_keys_put_iff, ih, List.map_append, List.mem_append, or_comm]
    simp

theorem keys_ofPairs_pairwise (pairs : List (String × α)) :
    (ofPairs pairs).keys.Pairwise fun a b =>
      (pairs.map (·.1)).idxOf a < (pairs.map (·.1)).idxOf b := by
  induction pairs using List.reverseRecOn with
  | nil => exact List.Pairwise.nil
  | append_singleton pairs p ih =>
    have hmem : ∀ {key}, key ∈ (ofPairs pairs).keys → key ∈ pairs.map (·.1) :=
      mem_keys_ofPairs_iff.mp
    rw [ofPairs_concat, keys_put, List.map_append]
    have hkept : (ofPairs pairs).keys.Pairwise fun a b =>
        (pairs.map (·.1) ++ [p].map (·.1)).idxOf a < (pairs.map (·.1) ++ [p].map (·.1)).idxOf b := by
      refine ih.imp_of_mem fun {a b} ha hb hab => ?_
      rwa [List.idxOf_append_of_mem (hmem ha), List.idxOf_append_of_mem (hmem hb)]
    split
    · exact hkept
    · next hnew =>
      rw [has_iff_mem_keys, mem_keys_ofPairs_iff] at hnew
      refine List.pairwise_append.mpr ⟨hkept, List.pairwise_singleton _ _, ?_⟩
      intro a ha b hb
      rw [List.mem_singleton.mp hb, List.idxOf_append_of_mem (hmem ha),
        List.idxOf_append_of_notMem hnew]
      exact Nat.lt_add_right _ (List.idxOf_lt_length_of_mem (hmem ha))

end Entries

namespace Source.Node

theorem mem_definitions_iff {n : Node} {d : Definition} :
    d ∈ n.definitions ↔ .content (.leaf (.definition d)) ∈ n.nodes := by
  rw [definitions, List.mem_filterMap]
  constructor
  · rintro ⟨m, hm, hd⟩
    unfold definition? at hd
    split at hd
    · cases hd
      exact hm
    · cases hd
  · intro hm
    exact ⟨_, hm, rfl⟩

theorem mem_references_iff {n : Node} {identifier : String} {d : Definition} :
    (identifier, d) ∈ n.references ↔ n.lastDefinition? identifier = some d := by
  rw [← get?_references]
  constructor
  · rw [references_eq]
    exact Entries.get?_of_mem (Entries.nodup_keys_ofPairs _)
  · exact Entries.mem_of_get?

theorem exists_lastDefinition? {n : Node} {d : Definition} (h : d ∈ n.definitions) :
    ∃ e, n.lastDefinition? d.identifier = some e := by
  have hmem : d ∈ n.definitions.filter fun e => e.identifier = d.identifier := by simp [h]
  exact ⟨_, List.getLast?_eq_some_getLast (List.ne_nil_of_mem hmem)⟩

theorem identifier_of_lastDefinition? {n : Node} {identifier : String} {d : Definition}
    (h : n.lastDefinition? identifier = some d) : d.identifier = identifier := by
  have hmem := List.mem_of_getLast? h
  simpa using (List.mem_filter.mp hmem).2

theorem get?_references_of_definition {n : Node} {d : Definition} (h : d ∈ n.definitions)
    (identifier : String) : ∃ e, n.references.get? d.identifier = some e ∧
      (n.references.get? identifier = some e ↔ d.identifier = identifier) := by
  obtain ⟨e, he⟩ := exists_lastDefinition? h
  refine ⟨e, by rw [get?_references, he], ?_⟩
  rw [get?_references]
  constructor
  · intro hother
    exact (identifier_of_lastDefinition? he).symm.trans (identifier_of_lastDefinition? hother)
  · intro hsame
    rw [← hsame, he]

/-- The index has one entry for each identifier of a definition, wherever in the tree it stands:
the last definition of that identifier. The identifiers are ordered by where they first occur. -/
theorem references_ordered (n : Node) :
    n.references.keys.Nodup ∧
    (∀ identifier, identifier ∈ n.references.keys ↔
      ∃ d, .content (.leaf (.definition d)) ∈ n.nodes ∧ d.identifier = identifier) ∧
    (∀ identifier d, (identifier, d) ∈ n.references ↔
      n.lastDefinition? identifier = some d) ∧
    n.references.keys.Pairwise fun a b =>
      (n.definitions.map (·.identifier)).idxOf a < (n.definitions.map (·.identifier)).idxOf b := by
  have hidentifiers : (n.definitions.map fun d => (d.identifier, d)).map (·.1) =
      n.definitions.map (·.identifier) := by
    rw [List.map_map]
    rfl
  refine ⟨?_, fun identifier => ?_, fun identifier d => mem_references_iff, ?_⟩
  · rw [references_eq]
    exact Entries.nodup_keys_ofPairs _
  · rw [references_eq, Entries.mem_keys_ofPairs_iff, hidentifiers, List.mem_map]
    simp only [mem_definitions_iff]
  · rw [references_eq, ← hidentifiers]
    exact Entries.keys_ofPairs_pairwise _

end Source.Node

end RichMarkdown
