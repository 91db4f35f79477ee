import RichMarkdown.Rule.Defaults
import RichMarkdown.Proofs.Entries

/-! The index of a registry holds the first rule for each type. A registry is coherent if its names
are distinct and its index, once built, is that of the current rules; every operation keeps this,
so a lookup sees the rules as they are. -/
namespace RichMarkdown.Registry

def firstClaim (type : String) (rules : List (String × Rule)) : Option (String × Rule) :=
  rules.find? fun p => p.2.claims.contains type

theorem firstClaim_eq_none_iff (type : String) (rules : List (String × Rule)) :
    firstClaim type rules = none ↔ ∀ p ∈ rules, type ∉ p.2.claims := by
  simp [firstClaim]

theorem firstClaim_eq_some_iff (type : String) (rules : List (String × Rule)) (p : String × Rule) :
    firstClaim type rules = some p ↔ type ∈ p.2.claims ∧
      ∃ before after, rules = before ++ p :: after ∧ ∀ q ∈ before, type ∉ q.2.claims := by
  simp [firstClaim, List.find?_eq_some_iff_append]

structure Coherent (r : Registry) : Prop where
  distinct : r.rules.keys.Nodup
  current : r.index = none ∨ r.index = some (buildIndex r.rules)

theorem Coherent.ofRules {rules : Entries Rule} (h : rules.keys.Nodup) :
    Coherent { rules } :=
  ⟨h, .inl rfl⟩

theorem coherent_ofPairs (pairs : List (String × Rule)) : (ofPairs pairs).Coherent :=
  .ofRules (Entries.nodup_keys_ofPairs pairs)

theorem coherent_default : Registry.default.Coherent :=
  .ofRules (by decide)

theorem get?_claim (name : String) (types : List String) (index : Entries String)
    (type : String) :
    (claim name types index).get? type =
      (index.get? type).or (if type ∈ types then some name else none) := by
  unfold claim
  induction types generalizing index with
  | nil => simp
  | cons t rest ih =>
    rw [List.foldl_cons, ih]
    by_cases ht : t = type
    · subst ht
      cases hi : index.get? t with
      | some n => simp [Entries.has, hi]
      | none => simp [Entries.has, hi, Entries.get?_put]
    · have hmem : type ∈ t :: rest ↔ type ∈ rest := by simp [Ne.symm ht]
      simp only [hmem]
      split
      · rfl
      · rw [Entries.get?_put, if_neg ht]

theorem get?_buildIndex (rules : Entries Rule) (type : String) :
    (buildIndex rules).get? type = (firstClaim type rules).map (·.1) := by
  -- What the index holds already comes from earlier rules and stays, whatever later ones claim.
  have general : ∀ (rules : List (String × Rule)) (index : Entries String),
      (rules.foldl (fun ix p => claim p.1 p.2.claims ix) index).get? type =
        (index.get? type).or ((firstClaim type rules).map (·.1)) := by
    intro rules
    induction rules with
    | nil => intro index; simp [firstClaim]
    | cons p rest ih =>
      intro index
      rw [List.foldl_cons, ih, get?_claim, Option.or_assoc]
      by_cases hp : type ∈ p.2.claims <;> simp [firstClaim, hp]
  exact general rules []

theorem Coherent.indexed_index {r : Registry} (h : r.Coherent) :
    r.indexed.index = some (buildIndex r.rules) := by
  unfold indexed
  rcases h.current with hnone | hsome
  · simp [hnone]
  · simp [hsome]

@[simp] theorem indexed_rules (r : Registry) : r.indexed.rules = r.rules := by
  unfold indexed
  split <;> rfl

@[simp] theorem find_rules (type : String) (r : Registry) : (r.find type).2.rules = r.rules := by
  unfold find
  dsimp only
  split
  · exact indexed_rules r
  · split <;> exact indexed_rules r

theorem mem_rules_of_find {r : Registry} {type name : String} {rule : Rule}
    (h : (r.find type).1 = .ok (some (name, rule))) : (name, rule) ∈ r.rules := by
  unfold find at h
  dsimp only at h
  split at h
  · cases h
  · next claimed _ =>
    split at h
    · next rule' hget =>
      cases h
      rw [get?, indexed_rules] at hget
      exact Entries.mem_of_get? hget
    · cases h

theorem Coherent.find_eq {r : Registry} (h : r.Coherent) (type : String) :
    r.find type = (.ok (firstClaim type r.rules), r.indexed) := by
  unfold find
  simp only [h.indexed_index, Option.getD_some, get?_buildIndex]
  cases hfirst : firstClaim type r.rules with
  | none => rfl
  | some p =>
    have hmem : (p.1, p.2) ∈ r.rules := List.mem_of_find?_eq_some hfirst
    have hget : r.indexed.get? p.1 = some p.2 := by
      rw [get?, indexed_rules, Entries.get?_of_mem h.distinct hmem]
    simp [hget]

theorem Coherent.indexed {r : Registry} (h : r.Coherent) : r.indexed.Coherent :=
  ⟨by rw [indexed_rules]; exact h.distinct, .inr (by rw [indexed_rules, h.indexed_index])⟩

theorem Coherent.find {r : Registry} (h : r.Coherent) (type : String) :
    (r.find type).2.Coherent := by
  rw [h.find_eq]
  exact h.indexed

theorem Coherent.add {r : Registry} (h : r.Coherent) (name : String) (rule : Rule) :
    (r.add name rule).Coherent :=
  .ofRules (Entries.nodup_keys_put h.distinct name rule)

@[simp] theorem remove_rules (name : String) (r : Registry) :
    (r.remove name).rules = r.rules.erase name := by
  unfold remove
  split
  · rfl
  · next habsent =>
    rw [contains, Entries.has_iff_mem_keys] at habsent
    exact (Entries.erase_of_not_mem habsent).symm

theorem Coherent.remove {r : Registry} (h : r.Coherent) (name : String) :
    (r.remove name).Coherent := by
  unfold Registry.remove
  split
  · exact .ofRules (Entries.nodup_keys_erase h.distinct name)
  · exact h

end RichMarkdown.Registry
