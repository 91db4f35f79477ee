import RichMarkdown.Entries

/-! Laws of entries: what is read after a key is written or removed, and that the keys stay
distinct. -/
namespace RichMarkdown.Entries

variable {α : Type}

theorem get?_put (key other : String) (value : α) (es : Entries α) :
    (es.put key value).get? other = if key = other then some value else es.get? other := by
  induction es with
  | nil => simp [put, get?]
  | cons e rest ih =>
    obtain ⟨k, v⟩ := e
    by_cases hk : k = key
    · subst hk
      by_cases ho : k = other <;> simp [put, get?, ho]
    · rw [put, if_neg hk]
      by_cases ho : k = other
      · have hne : ¬key = other := fun h => hk (ho.trans h.symm)
        simp [get?, ho, hne]
      · simp [get?, ho, ih]

theorem has_iff_mem_keys (key : String) (es : Entries α) : es.has key = true ↔ key ∈ es.keys := by
  induction es with
  | nil => simp [has, get?, keys]
  | cons e rest ih =>
    obtain ⟨k, v⟩ := e
    by_cases hk : k = key
    · simp [has, get?, keys, hk]
    · have hne : ¬key = k := fun h => hk h.symm
      simpa [has, get?, keys, hk, hne] using ih

theorem keys_put (key : String) (value : α) (es : Entries α) :
    (es.put key value).keys = if es.has key then es.keys else es.keys ++ [key] := by
  induction es with
  | nil => simp [put, keys, has, get?]
  | cons e rest ih =>
    obtain ⟨k, v⟩ := e
    by_cases hk : k = key
    · simp [put, keys, has, get?, hk]
    · have hhas : has key ((k, v) :: rest) = has key rest := by simp [has, get?, hk]
      rw [put, if_neg hk, hhas]
      simp only [keys, List.map_cons] at ih ⊢
      rw [ih]
      split <;> rfl

theorem nodup_keys_put {es : Entries α} (h : es.keys.Nodup) (key : String) (value : α) :
    (es.put key value).keys.Nodup := by
  rw [keys_put]
  split
  · exact h
  · next hnew =>
    rw [has_iff_mem_keys] at hnew
    exact List.nodup_append.mpr ⟨h, by simp, fun a ha b hb => by
      rw [List.mem_singleton.mp hb]
      exact fun heq => hnew (heq ▸ ha)⟩

theorem erase_eq_filter {es : Entries α} (h : es.keys.Nodup) (key : String) :
    es.erase key = es.filter fun p => p.1 ≠ key := by
  induction es with
  | nil => rfl
  | cons e rest ih =>
    obtain ⟨k, v⟩ := e
    simp only [keys, List.map_cons, List.nodup_cons] at h
    by_cases hk : k = key
    · subst hk
      have hall : ∀ p ∈ rest, p.1 ≠ k := fun p hp heq =>
        h.1 (heq ▸ List.mem_map_of_mem hp)
      simp only [erase, if_true]
      rw [List.filter_cons_of_neg (by simp)]
      exact (List.filter_eq_self.mpr fun p hp => by simpa using hall p hp).symm
    · simp only [erase, hk, if_false]
      rw [List.filter_cons_of_pos (by simpa using hk), ih h.2]

theorem nodup_keys_filter {es : Entries α} (h : es.keys.Nodup) (keep : String × α → Bool) :
    (keys (es.filter keep)).Nodup :=
  (List.filter_sublist.map _).nodup h

theorem nodup_keys_erase {es : Entries α} (h : es.keys.Nodup) (key : String) :
    (es.erase key).keys.Nodup := by
  rw [erase_eq_filter h]
  exact nodup_keys_filter h _

theorem erase_of_not_mem {es : Entries α} {key : String} (h : key ∉ es.keys) :
    es.erase key = es := by
  induction es with
  | nil => rfl
  | cons e rest ih =>
    obtain ⟨k, v⟩ := e
    simp only [keys, List.map_cons, List.mem_cons, not_or] at h
    have hk : ¬k = key := fun heq => h.1 heq.symm
    simp only [erase, hk, if_false, ih h.2]

theorem erase_sublist (key : String) (es : Entries α) : (es.erase key).Sublist es := by
  induction es with
  | nil => exact .slnil
  | cons e rest ih =>
    obtain ⟨k, v⟩ := e
    by_cases hk : k = key
    · simp only [erase, hk, if_true]
      exact .cons _ (List.Sublist.refl rest)
    · simp only [erase, hk, if_false]
      exact .cons_cons _ ih

theorem mem_of_get? {es : Entries α} {key : String} {value : α} (h : es.get? key = some value) :
    (key, value) ∈ es := by
  induction es with
  | nil => cases h
  | cons e rest ih =>
    obtain ⟨k, v⟩ := e
    rw [get?] at h
    split at h
    · next hk =>
      cases h
      rw [hk]
      exact List.mem_cons_self
    · exact List.mem_cons_of_mem _ (ih h)

theorem put_eq_map_or_append {es : Entries α} (h : es.keys.Nodup) (key : String) (value : α) :
    es.put key value =
      if es.any (fun p => p.1 = key) then es.map fun p => if p.1 = key then (key, value) else p
      else es ++ [(key, value)] := by
  induction es with
  | nil => rfl
  | cons e rest ih =>
    obtain ⟨k, v⟩ := e
    simp only [keys, List.map_cons, List.nodup_cons] at h
    by_cases hk : k = key
    · subst hk
      have hrest : rest.map (fun p => if p.1 = k then (k, value) else p) = rest := by
        refine (List.map_congr_left fun p hp => ?_).trans (List.map_id rest)
        have hne : p.1 ≠ k := fun heq => h.1 (heq ▸ List.mem_map_of_mem hp)
        exact if_neg hne
      simp [put, hrest]
    · rw [put, if_neg hk, ih h.2]
      by_cases hany : rest.any (fun p => p.1 = key) = true
      · simp only [List.any_cons, hk, decide_false, Bool.false_or, hany, if_true, List.map_cons,
          if_false]
      · simp only [List.any_cons, hk, decide_false, Bool.false_or, hany, Bool.false_eq_true,
          if_false, List.cons_append]

theorem get?_eq_find? (key : String) (es : Entries α) :
    es.get? key = (es.find? fun p => p.1 = key).map (·.2) := by
  induction es with
  | nil => rfl
  | cons e rest ih =>
    obtain ⟨k, v⟩ := e
    by_cases hk : k = key
    · simp [get?, hk]
    · simp [get?, hk, ih]

theorem get?_of_mem {es : Entries α} (h : es.keys.Nodup) {key : String} {value : α}
    (hmem : (key, value) ∈ es) : es.get? key = some value := by
  induction es with
  | nil => simp at hmem
  | cons e rest ih =>
    obtain ⟨k, v⟩ := e
    simp only [keys, List.map_cons, List.nodup_cons] at h
    rcases List.mem_cons.mp hmem with heq | hrest
    · cases heq
      simp [get?]
    · have hne : ¬k = key := fun heq => h.1 (heq ▸ List.mem_map_of_mem hrest)
      rw [get?, if_neg hne, ih h.2 hrest]

theorem mem_put {es : Entries α} {key : String} {value : α} {e : String × α}
    (h : e ∈ es.put key value) : e = (key, value) ∨ e ∈ es := by
  induction es with
  | nil => exact .inl (List.mem_singleton.mp h)
  | cons first rest ih =>
    obtain ⟨k, v⟩ := first
    rw [put] at h
    split at h
    · rcases List.mem_cons.mp h with heq | hrest
      · next hk => exact .inl (by rw [heq, hk])
      · exact .inr (List.mem_cons_of_mem _ hrest)
    · rcases List.mem_cons.mp h with heq | hrest
      · exact .inr (heq ▸ List.mem_cons_self)
      · exact (ih hrest).imp_right (List.mem_cons_of_mem _)

theorem mem_of_mem_ofPairs {pairs : List (String × α)} {e : String × α}
    (h : e ∈ ofPairs pairs) : e ∈ pairs := by
  have general : ∀ (pairs : List (String × α)) (es : Entries α),
      e ∈ pairs.foldl (fun es p => put p.1 p.2 es) es → e ∈ pairs ∨ e ∈ es := by
    intro pairs
    induction pairs with
    | nil => exact fun es he => .inr he
    | cons p rest ih =>
      intro es he
      rcases ih (es.put p.1 p.2) he with hrest | hput
      · exact .inl (List.mem_cons_of_mem p hrest)
      · refine (mem_put hput).imp_left fun heq => ?_
        rw [heq]
        exact List.mem_cons_self
  rcases general pairs [] h with hmem | hnil
  · exact hmem
  · cases hnil

theorem nodup_keys_foldl_put (pairs : List (String × α)) {es : Entries α} (h : es.keys.Nodup) :
    (keys (pairs.foldl (fun es p => put p.1 p.2 es) es)).Nodup := by
  induction pairs generalizing es with
  | nil => exact h
  | cons p rest ih => exact ih (nodup_keys_put h p.1 p.2)

theorem get?_ofPairs (pairs : List (String × α)) (key : String) :
    (ofPairs pairs).get? key = ((pairs.filter fun p => p.1 = key).getLast?).map (·.2) := by
  have general : ∀ (pairs : List (String × α)) (es : Entries α),
      (pairs.foldl (fun es p => es.put p.1 p.2) es).get? key =
        (((pairs.filter fun p => p.1 = key).getLast?).map (·.2)).or (es.get? key) := by
    intro pairs
    induction pairs with
    | nil => intro es; rfl
    | cons p rest ih =>
      intro es
      rw [List.foldl_cons, ih, get?_put]
      by_cases hp : p.1 = key
      · rw [List.filter_cons_of_pos (by simpa using hp), List.getLast?_cons]
        cases (rest.filter fun p => p.1 = key).getLast? <;> simp [hp]
      · rw [List.filter_cons_of_neg (by simpa using hp), if_neg hp]
  exact (general pairs []).trans Option.or_none

theorem nodup_keys_ofPairs (pairs : List (String × α)) : (ofPairs pairs).keys.Nodup :=
  nodup_keys_foldl_put pairs List.nodup_nil

theorem put_of_not_mem {key : String} {es : Entries α} (h : key ∉ es.keys)
    (value : α) : es.put key value = es ++ [(key, value)] := by
  induction es with
  | nil => rfl
  | cons e rest ih =>
    obtain ⟨k, v⟩ := e
    simp only [keys, List.map_cons, List.mem_cons, not_or] at h
    rw [put, if_neg fun heq => h.1 heq.symm, ih h.2]
    rfl

theorem ofPairs_of_nodup {pairs : List (String × α)} (h : (keys pairs).Nodup) :
    ofPairs pairs = pairs := by
  have general : ∀ (pairs es : List (String × α)), (keys (es ++ pairs)).Nodup →
      pairs.foldl (fun es p => put p.1 p.2 es) es = es ++ pairs := by
    intro pairs
    induction pairs with
    | nil => simp
    | cons p rest ih =>
      intro es hes
      have hnew : p.1 ∉ keys es := by
        rw [keys, List.map_append, List.nodup_append] at hes
        exact fun hmem => hes.2.2 _ hmem _ List.mem_cons_self rfl
      rw [List.foldl_cons, put_of_not_mem hnew, ih, List.append_assoc, List.singleton_append]
      rwa [List.append_assoc]
  exact general pairs [] h

end RichMarkdown.Entries
