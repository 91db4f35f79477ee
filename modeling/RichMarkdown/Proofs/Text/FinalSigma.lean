import RichMarkdown.Proofs.Text.Lower

/-! Where lower-casing a text differs from lower-casing its characters: at the capital sigmas that end
a word, and nowhere else. -/
namespace RichMarkdown.Text

/-- A capital sigma of the text `s`, which stands behind `front`, ends a word: a cased letter is
before it and none behind it, case-ignorable characters passed over. Its lower-case form has the
place `i` in that of `s`. -/
def FinalSigmaAfter (front s : List Char) (i : Nat) : Prop :=
  ∃ before after, s = before ++ 'Σ' :: after ∧ startsCased (front ++ before).reverse = true ∧
    startsCased after = false ∧ (before.flatMap lowerChar).length = i

theorem finalSigmaAfter_cons_iff {front rest : List Char} {c : Char} {i : Nat} :
    FinalSigmaAfter front (c :: rest) i ↔
      c = 'Σ' ∧ startsCased front.reverse = true ∧ startsCased rest = false ∧ i = 0 ∨
      ∃ j, FinalSigmaAfter (front ++ [c]) rest j ∧ (lowerChar c).length + j = i := by
  constructor
  · rintro ⟨before, after, hs, hbefore, hafter, rfl⟩
    cases before with
    | nil =>
      obtain ⟨rfl, rfl⟩ := List.cons.inj hs
      rw [List.append_nil] at hbefore
      exact .inl ⟨rfl, hbefore, hafter, rfl⟩
    | cons d more =>
      obtain ⟨rfl, rfl⟩ := List.cons.inj hs
      refine .inr ⟨_, ⟨more, after, rfl, ?_, hafter, rfl⟩, ?_⟩
      · rwa [List.append_assoc, List.singleton_append]
      · rw [List.flatMap_cons, List.length_append]
  · rintro (⟨rfl, hbefore, hafter, rfl⟩ | ⟨j, ⟨before, after, rfl, hbefore, hafter, rfl⟩, rfl⟩)
    · refine ⟨[], rest, rfl, ?_, hafter, rfl⟩
      rwa [List.append_nil]
    · refine ⟨c :: before, after, rfl, ?_, hafter, ?_⟩
      · rwa [List.append_assoc, List.singleton_append] at hbefore
      · rw [List.flatMap_cons, List.length_append]

theorem finalSigmaAfter_cons_add_iff {front rest : List Char} {c : Char} {j : Nat} :
    FinalSigmaAfter front (c :: rest) ((lowerChar c).length + j) ↔
      FinalSigmaAfter (front ++ [c]) rest j := by
  have hpos : 0 < (lowerChar c).length := List.length_pos_iff.mpr (lowerChar_ne_nil c)
  rw [finalSigmaAfter_cons_iff]
  constructor
  · rintro (⟨-, -, -, hzero⟩ | ⟨k, hfinal, hk⟩)
    · omega
    · rwa [Nat.add_left_cancel hk] at hfinal
  · intro hfinal
    exact .inr ⟨j, hfinal, rfl⟩

theorem finalSigmaAfter_cons_lt_iff {front rest : List Char} {c : Char} {i : Nat}
    (h : i < (lowerChar c).length) : FinalSigmaAfter front (c :: rest) i ↔
      c = 'Σ' ∧ startsCased front.reverse = true ∧ startsCased rest = false := by
  rw [finalSigmaAfter_cons_iff]
  constructor
  · rintro (⟨hsigma, hbefore, hafter, -⟩ | ⟨j, -, hj⟩)
    · exact ⟨hsigma, hbefore, hafter⟩
    · omega
  · rintro ⟨rfl, hbefore, hafter⟩
    rw [lowerChar_sigma, List.length_singleton] at h
    exact .inl ⟨rfl, hbefore, hafter, by omega⟩

def lowerBetween (front : List Char) (c : Char) (rest : List Char) : List Char :=
  if c = 'Σ' then [if startsCased front.reverse && !startsCased rest then 'ς' else 'σ']
  else lowerChar c

theorem lowerAfter_cons (front rest : List Char) (c : Char) :
    lowerAfter (startsCased front.reverse) (c :: rest) =
      lowerBetween front c rest ++ lowerAfter (startsCased (front ++ [c]).reverse) rest := by
  rw [List.reverse_append, List.reverse_singleton, List.singleton_append, startsCased_cons]
  rfl

theorem lowerBetween_of_final {front rest : List Char} (hbefore : startsCased front.reverse = true)
    (hafter : startsCased rest = false) : lowerBetween front 'Σ' rest = ['ς'] := by
  rw [lowerBetween, if_pos rfl, hbefore, hafter]
  rfl

theorem lowerBetween_of_not_final {front rest : List Char} {c : Char}
    (h : ¬(c = 'Σ' ∧ startsCased front.reverse = true ∧ startsCased rest = false)) :
    lowerBetween front c rest = lowerChar c := by
  unfold lowerBetween
  split
  · next hsigma =>
    rw [hsigma, lowerChar_sigma, if_neg]
    simpa [hsigma] using h
  · rfl

theorem length_lowerBetween (front rest : List Char) (c : Char) :
    (lowerBetween front c rest).length = (lowerChar c).length := by
  by_cases h : c = 'Σ' ∧ startsCased front.reverse = true ∧ startsCased rest = false
  · obtain ⟨rfl, hbefore, hafter⟩ := h
    rw [lowerBetween_of_final hbefore hafter, lowerChar_sigma]
    rfl
  · rw [lowerBetween_of_not_final h]

theorem getElem?_lowerAfter_of_final {front s : List Char} {i : Nat}
    (h : FinalSigmaAfter front s i) :
    (lowerAfter (startsCased front.reverse) s)[i]? = some 'ς' ∧
      (s.flatMap lowerChar)[i]? = some 'σ' := by
  induction s generalizing front i with
  | nil =>
    obtain ⟨before, after, hs, -⟩ := h
    cases before <;> cases hs
  | cons c rest ih =>
    rw [lowerAfter_cons, List.flatMap_cons]
    have hlength := length_lowerBetween front rest c
    rcases Nat.lt_or_ge i (lowerChar c).length with hhere | hbehind
    · obtain ⟨rfl, hbefore, hafter⟩ := (finalSigmaAfter_cons_lt_iff hhere).mp h
      rw [lowerChar_sigma, List.length_singleton] at hhere
      obtain rfl : i = 0 := by omega
      rw [lowerBetween_of_final hbefore hafter, lowerChar_sigma]
      exact ⟨rfl, rfl⟩
    · obtain ⟨j, rfl⟩ := Nat.exists_eq_add_of_le hbehind
      rw [List.getElem?_append_right (by omega), List.getElem?_append_right hbehind, hlength,
        Nat.add_sub_cancel_left]
      exact ih (finalSigmaAfter_cons_add_iff.mp h)

theorem getElem?_lowerAfter_of_not_final {front s : List Char} {i : Nat}
    (h : ¬FinalSigmaAfter front s i) :
    (lowerAfter (startsCased front.reverse) s)[i]? = (s.flatMap lowerChar)[i]? := by
  induction s generalizing front i with
  | nil => rfl
  | cons c rest ih =>
    rw [lowerAfter_cons, List.flatMap_cons]
    have hlength := length_lowerBetween front rest c
    rcases Nat.lt_or_ge i (lowerChar c).length with hhere | hbehind
    · rw [finalSigmaAfter_cons_lt_iff hhere] at h
      rw [List.getElem?_append_left (by omega), List.getElem?_append_left hhere,
        lowerBetween_of_not_final h]
    · obtain ⟨j, rfl⟩ := Nat.exists_eq_add_of_le hbehind
      rw [finalSigmaAfter_cons_add_iff] at h
      rw [List.getElem?_append_right (by omega), List.getElem?_append_right hbehind, hlength,
        Nat.add_sub_cancel_left]
      exact ih h

/-- Two texts that are the same when each of their characters is lower-cased on its own are the same
in lower case just when capital sigmas end words at the same places. -/
theorem lower_eq_lower_iff {s t : List Char} (h : s.flatMap lowerChar = t.flatMap lowerChar) :
    lower s = lower t ↔ ∀ i, FinalSigmaAfter [] s i ↔ FinalSigmaAfter [] t i := by
  have hfinal : ∀ {s t : List Char} {i : Nat}, s.flatMap lowerChar = t.flatMap lowerChar →
      lower s = lower t → FinalSigmaAfter [] s i → FinalSigmaAfter [] t i := by
    intro s t i hchars hlower hs
    obtain ⟨hform, hplain⟩ := getElem?_lowerAfter_of_final hs
    by_contra ht
    have hother := getElem?_lowerAfter_of_not_final ht
    change (lower s)[i]? = some 'ς' at hform
    change (lower t)[i]? = _ at hother
    rw [hlower, hother, ← hchars, hplain] at hform
    exact absurd hform (by decide)
  constructor
  · intro hlower i
    exact ⟨hfinal h hlower, hfinal h.symm hlower.symm⟩
  · intro hsame
    apply List.ext_getElem?
    intro i
    by_cases hs : FinalSigmaAfter [] s i
    · have ht := (hsame i).mp hs
      exact (getElem?_lowerAfter_of_final hs).1.trans (getElem?_lowerAfter_of_final ht).1.symm
    · have ht := fun h => hs ((hsame i).mpr h)
      have hplain : (s.flatMap lowerChar)[i]? = (t.flatMap lowerChar)[i]? := by rw [h]
      exact (getElem?_lowerAfter_of_not_final hs).trans
        (hplain.trans (getElem?_lowerAfter_of_not_final ht).symm)

end RichMarkdown.Text
