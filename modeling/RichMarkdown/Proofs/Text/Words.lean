import Mathlib.Data.List.Chain
import RichMarkdown.Text.Space

/-! The words of a text, and the text that has one plain space between each two words. -/
namespace RichMarkdown.Text

variable {p : Char → Bool}

theorem wordsBy_eq_filter_splitOnP (p : Char → Bool) (s : List Char) :
    wordsBy p s = (s.splitOnP p).filter fun w => w ≠ [] := by
  fun_induction wordsBy p s with
  | case1 => rfl
  | case2 c hc => simp [List.splitOnP_cons_eq_if_modifyHead, hc]
  | case3 c hc => simp [List.splitOnP_cons_eq_if_modifyHead, hc]
  | case4 c d rest hc ih => rw [List.splitOnP_cons_eq_if_modifyHead, if_pos hc, ih]; rfl
  | case5 c d rest hc hd ih =>
    rw [ih, List.splitOnP_cons_eq_if_modifyHead c, if_neg hc,
      List.splitOnP_cons_eq_if_modifyHead d, if_pos hd]
    rfl
  | case6 c d rest hc hd w ws hws ih =>
    obtain ⟨first, others, hsplit⟩ := List.exists_cons_of_ne_nil (List.splitOnP_ne_nil p rest)
    rw [List.splitOnP_cons_eq_if_modifyHead d, if_neg hd, hsplit, hws] at ih
    rw [List.splitOnP_cons_eq_if_modifyHead c, if_neg hc,
      List.splitOnP_cons_eq_if_modifyHead d, if_neg hd, hsplit]
    simp_all
  | case7 c d rest hc hd hws ih =>
    obtain ⟨first, others, hsplit⟩ := List.exists_cons_of_ne_nil (List.splitOnP_ne_nil p rest)
    rw [List.splitOnP_cons_eq_if_modifyHead d, if_neg hd, hsplit, hws] at ih
    simp at ih

theorem wordsBy_append_cons {c : Char} (hc : p c) (a b : List Char) :
    wordsBy p (a ++ c :: b) = wordsBy p a ++ wordsBy p b := by
  simp only [wordsBy_eq_filter_splitOnP, List.splitOnP_append_cons a b hc, List.filter_append]

theorem wordsBy_blank_append {w : List Char} (hw : ∀ c ∈ w, p c) (s : List Char) :
    wordsBy p (w ++ s) = wordsBy p s := by
  induction w with
  | nil => rfl
  | cons c rest ih =>
    obtain ⟨hc, hrest⟩ := List.forall_mem_cons.mp hw
    exact (wordsBy_append_cons hc [] (rest ++ s)).trans (ih hrest)

theorem wordsBy_append_blank_append {w : List Char} (hne : w ≠ []) (hw : ∀ c ∈ w, p c)
    (a b : List Char) : wordsBy p (a ++ w ++ b) = wordsBy p a ++ wordsBy p b := by
  obtain ⟨c, rest, rfl⟩ := List.exists_cons_of_ne_nil hne
  obtain ⟨hc, hrest⟩ := List.forall_mem_cons.mp hw
  rw [List.append_assoc, List.cons_append, wordsBy_append_cons hc, wordsBy_blank_append hrest]

theorem flatten_splitOnP (p : Char → Bool) (s : List Char) :
    (s.splitOnP p).flatten = s.filter fun c => !p c := by
  induction s with
  | nil => rfl
  | cons c rest ih =>
    obtain ⟨first, others, hsplit⟩ := List.exists_cons_of_ne_nil (List.splitOnP_ne_nil p rest)
    rw [List.splitOnP_cons_eq_if_modifyHead]
    rw [hsplit] at ih ⊢
    split <;> simp_all

theorem flatten_wordsBy (p : Char → Bool) (s : List Char) :
    (wordsBy p s).flatten = s.filter fun c => !p c := by
  rw [wordsBy_eq_filter_splitOnP, List.flatten_filter_ne_nil, flatten_splitOnP]

theorem wordsBy_ne_nil {s : List Char} (h : ∃ c ∈ s, p c = false) : wordsBy p s ≠ [] := by
  obtain ⟨c, hmem, hc⟩ := h
  intro hnil
  have hkept : c ∈ s.filter fun c => !p c := List.mem_filter.mpr ⟨hmem, by simp [hc]⟩
  rw [← flatten_wordsBy, hnil] at hkept
  cases hkept

structure IsWord (p : Char → Bool) (w : List Char) : Prop where
  ne_nil : w ≠ []
  solid : ∀ c ∈ w, p c = false

theorem isWord_of_mem {s w : List Char} (h : w ∈ wordsBy p s) : IsWord p w where
  ne_nil := by
    rw [wordsBy_eq_filter_splitOnP, List.mem_filter] at h
    simpa using h.2
  solid := by
    intro c hc
    have hkept : c ∈ (wordsBy p s).flatten := List.mem_flatten.mpr ⟨w, h, hc⟩
    rw [flatten_wordsBy, List.mem_filter] at hkept
    simpa using hkept.2

theorem IsWord.wordsBy {w : List Char} (h : IsWord p w) : wordsBy p w = [w] := by
  rw [wordsBy_eq_filter_splitOnP, List.splitOnP_eq_singleton h.solid]
  simp [h.ne_nil]

theorem wordsBy_intercalate {c : Char} (hc : p c) {ws : List (List Char)}
    (h : ∀ w ∈ ws, IsWord p w) : wordsBy p ([c].intercalate ws) = ws := by
  induction ws with
  | nil => rfl
  | cons w rest ih =>
    obtain ⟨hw, hrest⟩ := List.forall_mem_cons.mp h
    by_cases hnil : rest = []
    · rw [hnil, List.intercalate_singleton, hw.wordsBy]
    · rw [List.intercalate_cons_of_ne_nil hnil, List.append_assoc, List.singleton_append,
        wordsBy_append_cons hc, hw.wordsBy, ih hrest, List.singleton_append]

theorem filter_collapseBy (hspace : p ' ') (s : List Char) :
    (collapseBy p s).filter (fun c => !p c) = s.filter fun c => !p c := by
  rw [← flatten_wordsBy, ← flatten_wordsBy, collapseBy,
    wordsBy_intercalate hspace fun w => isWord_of_mem]

theorem intercalate_append {c : Char} {ws vs : List (List Char)} (hws : ws ≠ []) (hvs : vs ≠ []) :
    [c].intercalate (ws ++ vs) = [c].intercalate ws ++ c :: [c].intercalate vs := by
  induction ws with
  | nil => exact absurd rfl hws
  | cons w rest ih =>
    by_cases hnil : rest = []
    · rw [hnil, List.singleton_append, List.intercalate_cons_of_ne_nil hvs,
        List.intercalate_singleton, List.append_assoc, List.singleton_append]
    · have happend : rest ++ vs ≠ [] := List.append_ne_nil_of_left_ne_nil hnil vs
      rw [List.cons_append, List.intercalate_cons_of_ne_nil happend, ih hnil,
        List.intercalate_cons_of_ne_nil hnil, List.append_assoc, List.append_assoc,
        List.append_assoc]

/-- A text without separators at its ends, in which every separator is the given one and stands
alone. -/
structure Collapsed (p : Char → Bool) (sep : Char) (s : List Char) : Prop where
  starts : ∀ c ∈ s.head?, p c = false
  ends : ∀ c ∈ s.getLast?, p c = false
  plain : ∀ c ∈ s, p c → c = sep
  apart : s.IsChain fun c d => p c = false ∨ p d = false

theorem IsWord.collapsed {w : List Char} (h : IsWord p w) (sep : Char) : Collapsed p sep w where
  starts c hc := h.solid c (List.mem_of_mem_head? hc)
  ends c hc := h.solid c (List.mem_of_mem_getLast? hc)
  plain c hc hsep := by
    rw [h.solid c hc] at hsep
    cases hsep
  apart := (List.pairwise_of_forall_mem_list fun c hc _ _ => .inl (h.solid c hc)).isChain

theorem IsWord.collapsed_append {w s : List Char} (hw : IsWord p w) {sep : Char}
    (h : Collapsed p sep s) (hne : s ≠ []) : Collapsed p sep (w ++ sep :: s) := by
  obtain ⟨c, rest, rfl⟩ := List.exists_cons_of_ne_nil hw.ne_nil
  obtain ⟨d, more, rfl⟩ := List.exists_cons_of_ne_nil hne
  have hc : p c = false := hw.solid c List.mem_cons_self
  refine ⟨?_, ?_, ?_, ?_⟩
  · intro e he
    cases he
    exact hc
  · have hlast : (c :: rest ++ sep :: d :: more).getLast? = (d :: more).getLast? := by
      rw [List.getLast?_append, List.getLast?_cons_cons, List.getLast?_cons, Option.some_or]
    rw [hlast]
    exact h.ends
  · intro e he hsep
    rcases List.mem_append.mp he with hword | hrest
    · exact (hw.collapsed sep).plain e hword hsep
    · rcases List.mem_cons.mp hrest with heq | hmem
      · exact heq
      · exact h.plain e hmem hsep
  · refine List.isChain_append.mpr ⟨(hw.collapsed sep).apart, ?_, ?_⟩
    · exact List.isChain_cons.mpr ⟨fun e he => .inr (h.starts e he), h.apart⟩
    · intro e he f _
      exact .inl ((hw.collapsed sep).ends e he)

theorem collapsed_intercalate {sep : Char} {ws : List (List Char)} (h : ∀ w ∈ ws, IsWord p w) :
    Collapsed p sep ([sep].intercalate ws) := by
  induction ws with
  | nil => exact ⟨nofun, nofun, nofun, List.isChain_nil⟩
  | cons w rest ih =>
    obtain ⟨hw, hrest⟩ := List.forall_mem_cons.mp h
    cases rest with
    | nil =>
      rw [List.intercalate_singleton]
      exact hw.collapsed sep
    | cons v more =>
      have hv : IsWord p v := hrest v List.mem_cons_self
      obtain ⟨c, more', rfl⟩ := List.exists_cons_of_ne_nil hv.ne_nil
      have hne : [sep].intercalate ((c :: more') :: more) ≠ [] := by
        rw [List.intercalate_cons_cons_left]
        exact List.cons_ne_nil _ _
      rw [List.intercalate_cons_cons, List.append_assoc, List.singleton_append]
      exact hw.collapsed_append (ih hrest) hne

end RichMarkdown.Text
