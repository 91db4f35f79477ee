import RichMarkdown.Proofs.Text.Words
import RichMarkdown.Text.Case

/-! Lower-case text. Nothing in it has another lower-case form, no character becomes a separator,
and what ends the context of a sigma splits the lower-casing of a text in two. -/
namespace RichMarkdown.Text

def CaseRun.top (r : CaseRun) : Nat :=
  r.image + (r.last - r.first)

theorem CaseRun.map?_eq_some {r : CaseRun} {n m : Nat} (h : r.map? n = some m) :
    r.first ≤ n ∧ n ≤ r.last ∧ (n - r.first) % r.step = 0 ∧ m = r.image + (n - r.first) := by
  unfold map? at h
  split at h
  · next hin =>
    simp only [Bool.and_eq_true, decide_eq_true_eq, beq_iff_eq] at hin
    exact ⟨hin.1.1, hin.1.2, hin.2, (Option.some.inj h).symm⟩
  · cases h

/-- Whether the second run maps none of the code points that the first one maps to: it lies apart
from them, or between them. -/
def CaseRun.clears (r q : CaseRun) : Bool :=
  r.top.blt q.first || q.last.blt r.image ||
    q.step == 2 && (r.step == 2 || r.first == r.last) && (r.image + q.first) % 2 == 1

theorem CaseRun.map?_eq_none {r q : CaseRun} (h : r.clears q) {n m : Nat}
    (hm : r.map? n = some m) : q.map? m = none := by
  obtain ⟨hfirst, hlast, hstep, rfl⟩ := map?_eq_some hm
  simp only [clears, top, Nat.blt_eq, Bool.or_eq_true, Bool.and_eq_true, beq_iff_eq] at h
  unfold map?
  rw [if_neg]
  simp only [Bool.and_eq_true, decide_eq_true_eq, beq_iff_eq]
  rintro ⟨⟨hlow, hhigh⟩, hmod⟩
  rcases h with (habove | hbelow) | ⟨⟨hq, hr⟩, hodd⟩
  · omega
  · omega
  · -- Both runs take every second code point, and they start an odd distance apart.
    rw [hq] at hmod
    rcases hr with hr | hr
    · rw [hr] at hstep
      omega
    · omega

theorem lowerRuns_clear : (lowerRuns.all fun r => lowerRuns.all r.clears) = true := by
  decide +kernel

theorem lowerRuns_images : ∀ r ∈ lowerRuns, 0x5A < r.image ∧
    (r.top < 0xD800 ∨ 0xDFFF < r.image ∧ r.top < 0x110000) ∧
    (r.top < 0x130 ∨ 0x130 < r.image) ∧
    (r.top < 0x85 ∨ 0xA0 < r.image ∧ r.top < 0x1680 ∨ 0x1680 < r.image ∧ r.top < 0x2000 ∨
      0x205F < r.image ∧ r.top < 0x3000 ∨ 0x3000 < r.image) := by
  decide +kernel

/-- A character that is its own lower-case form and no separator. -/
structure Lowered (c : Char) : Prop where
  fixed : lowerChar c = [c]
  solid : isSpace c = false

theorem lowerChar_of_ascii {c : Char} (h : c.toNat < 0x80) (hcapital : 0x5A < c.toNat) :
    lowerChar c = [c] := by
  simp only [lowerChar, if_pos h, Bool.and_eq_true, decide_eq_true_eq]
  exact if_neg fun hletter => by omega

theorem lowerChar_of_unmapped {c : Char} (h : mapRuns? lowerRuns c.toNat = none)
    (hdotted : c.toNat ≠ 0x130) (hascii : ¬c.toNat < 0x80) : lowerChar c = [c] := by
  simp only [lowerChar, if_neg hascii, beq_iff_eq, if_neg hdotted, h]

theorem isSpace_eq_false_of_lt {c : Char} (h : 0x20 < c.toNat)
    (hgap : c.toNat < 0x85 ∨ 0xA0 < c.toNat ∧ c.toNat < 0x1680 ∨
      0x1680 < c.toNat ∧ c.toNat < 0x2000 ∨ 0x205F < c.toNat ∧ c.toNat < 0x3000 ∨
      0x3000 < c.toNat) : isSpace c = false := by
  simp only [isSpace, isWhiteSpace, Bool.or_eq_false_iff, Bool.and_eq_false_iff,
    decide_eq_false_iff_not, beq_eq_false_iff_ne]
  omega

theorem toNat_ofNat_of_isValidChar {n : Nat} (h : n.isValidChar) : (Char.ofNat n).toNat = n := by
  rw [Char.ofNat, dif_pos h]
  rfl

theorem lowered_ofNat {n m : Nat} (h : mapRuns? lowerRuns n = some m) :
    Lowered (Char.ofNat m) := by
  obtain ⟨r, hr, hm⟩ := List.exists_of_findSome?_eq_some h
  obtain ⟨hcapital, hvalid, hdotted, hgap⟩ := lowerRuns_images r hr
  have hbounds : r.image ≤ m ∧ m ≤ r.top := by
    obtain ⟨hfirst, hlast, -, rfl⟩ := CaseRun.map?_eq_some hm
    unfold CaseRun.top
    omega
  have hnone : mapRuns? lowerRuns m = none := by
    refine List.findSome?_eq_none_iff.mpr fun q hq => ?_
    have hclear := List.all_eq_true.mp lowerRuns_clear r hr
    exact CaseRun.map?_eq_none (List.all_eq_true.mp hclear q hq) hm
  have hchar : (Char.ofNat m).toNat = m := by
    apply toNat_ofNat_of_isValidChar
    unfold Nat.isValidChar
    omega
  constructor
  · by_cases hascii : m < 0x80
    · exact lowerChar_of_ascii (by omega) (by omega)
    · exact lowerChar_of_unmapped (by rwa [hchar]) (by omega) (by omega)
  · apply isSpace_eq_false_of_lt <;> omega

theorem lowerChar_eq_or_lowered (c : Char) :
    lowerChar c = [c] ∨ ∀ d ∈ lowerChar c, Lowered d := by
  fun_cases lowerChar c with
  | case1 n hascii hletter =>
    simp only [Bool.and_eq_true, decide_eq_true_eq] at hletter
    have hchar : (Char.ofNat (n + 0x20)).toNat = n + 0x20 := by
      apply toNat_ofNat_of_isValidChar
      unfold Nat.isValidChar
      omega
    refine .inr fun d hd => ?_
    rw [List.mem_singleton.mp hd]
    exact ⟨lowerChar_of_ascii (by omega) (by omega), isSpace_eq_false_of_lt (by omega) (by omega)⟩
  | case2 n hascii hletter => exact .inl rfl
  | case3 n hascii hdotted =>
    refine .inr (List.forall_mem_cons.mpr ⟨⟨by decide, by decide⟩, ?_⟩)
    exact List.forall_mem_singleton.mpr ⟨by decide +kernel, by decide⟩
  | case4 n hascii hdotted m hm =>
    refine .inr fun d hd => ?_
    rw [List.mem_singleton.mp hd]
    exact lowered_ofNat hm
  | case5 n hascii hdotted hm => exact .inl rfl

theorem lowerChar_fixed {c d : Char} (h : d ∈ lowerChar c) : lowerChar d = [d] := by
  rcases lowerChar_eq_or_lowered c with heq | hlowered
  · rw [heq, List.mem_singleton] at h
    rw [h, heq]
  · exact (hlowered d h).fixed

theorem isSpace_of_mem_lowerChar {c d : Char} (hc : isSpace c = false) (h : d ∈ lowerChar c) :
    isSpace d = false := by
  rcases lowerChar_eq_or_lowered c with heq | hlowered
  · rw [heq, List.mem_singleton] at h
    rwa [h]
  · exact (hlowered d h).solid

theorem lowerChar_ne_nil (c : Char) : lowerChar c ≠ [] := by
  fun_cases lowerChar c <;> exact List.cons_ne_nil _ _

theorem lowered_finalSigma : Lowered 'ς' :=
  ⟨by decide +kernel, by decide⟩

theorem lowerChar_sigma : lowerChar 'Σ' = ['σ'] := by
  decide +kernel

theorem mem_lowerAfter {afterCased : Bool} {s : List Char} {d : Char}
    (h : d ∈ lowerAfter afterCased s) : d = 'ς' ∨ ∃ c ∈ s, d ∈ lowerChar c := by
  induction s generalizing afterCased with
  | nil => cases h
  | cons c rest ih =>
    rcases List.mem_append.mp h with hform | hrest
    · split at hform
      · next hsigma =>
        rw [List.mem_singleton] at hform
        split at hform
        · exact .inl hform
        · refine .inr ⟨c, List.mem_cons_self, ?_⟩
          rw [hsigma, lowerChar_sigma, hform]
          exact List.mem_cons_self
      · exact .inr ⟨c, List.mem_cons_self, hform⟩
    · refine (ih hrest).imp_right fun ⟨e, he, hd⟩ => ⟨e, List.mem_cons_of_mem c he, hd⟩

theorem lowerAfter_of_fixed {s : List Char} (h : ∀ c ∈ s, lowerChar c = [c]) (afterCased : Bool) :
    lowerAfter afterCased s = s := by
  induction s generalizing afterCased with
  | nil => rfl
  | cons c rest ih =>
    obtain ⟨hc, hrest⟩ := List.forall_mem_cons.mp h
    have hsigma : c ≠ 'Σ' := by
      rintro rfl
      rw [lowerChar_sigma] at hc
      cases hc
    rw [lowerAfter, if_neg hsigma, hc, ih hrest, List.singleton_append]

theorem lower_lower (s : List Char) : lower (lower s) = lower s := by
  apply lowerAfter_of_fixed
  intro d hd
  rcases mem_lowerAfter hd with rfl | ⟨c, -, hmem⟩
  · exact lowered_finalSigma.fixed
  · exact lowerChar_fixed hmem

theorem IsWord.lower {w : List Char} (h : IsWord isSpace w) : IsWord isSpace (lower w) where
  ne_nil := by
    obtain ⟨c, rest, rfl⟩ := List.exists_cons_of_ne_nil h.ne_nil
    apply List.append_ne_nil_of_left_ne_nil
    split
    · exact List.cons_ne_nil _ _
    · exact lowerChar_ne_nil c
  solid := by
    intro d hd
    rcases mem_lowerAfter hd with rfl | ⟨c, hc, hmem⟩
    · exact lowered_finalSigma.solid
    · exact isSpace_of_mem_lowerChar (h.solid c hc) hmem

theorem startsCased_cons (c : Char) (s : List Char) :
    startsCased (c :: s) = if isCaseIgnorable c then startsCased s else isCased c := by
  simp only [startsCased, List.dropWhile_cons]
  by_cases hc : isCaseIgnorable c = true
  · rw [if_pos hc, if_pos hc]
  · rw [if_neg hc, if_neg hc]

theorem startsCased_append_cons {c : Char} (hignorable : isCaseIgnorable c = false)
    (hcased : isCased c = false) (a b : List Char) :
    startsCased (a ++ c :: b) = startsCased a := by
  induction a with
  | nil =>
    rw [List.nil_append, startsCased_cons, hignorable, hcased]
    rfl
  | cons d rest ih => rw [List.cons_append, startsCased_cons, startsCased_cons, ih]

/-- A character that is neither a letter nor passed over ends the context of every sigma before it
and of every one behind it. -/
theorem lowerAfter_append_cons {c : Char} (hignorable : isCaseIgnorable c = false)
    (hcased : isCased c = false) (afterCased : Bool) (a b : List Char) :
    lowerAfter afterCased (a ++ c :: b) = lowerAfter afterCased a ++ lowerChar c ++ lower b := by
  induction a generalizing afterCased with
  | nil =>
    have hsigma : c ≠ 'Σ' := by
      rintro rfl
      exact absurd hcased (by decide)
    simp only [List.nil_append, lowerAfter, if_neg hsigma, hignorable, hcased]
    rfl
  | cons d rest ih =>
    rw [List.cons_append, lowerAfter, lowerAfter, ih, startsCased_append_cons hignorable hcased,
      List.append_assoc, List.append_assoc, List.append_assoc]

theorem lower_append_space (a b : List Char) : lower (a ++ ' ' :: b) = lower a ++ ' ' :: lower b := by
  have hform : lowerChar ' ' = [' '] := by decide
  have hignorable : isCaseIgnorable ' ' = false := by decide +kernel
  have hcased : isCased ' ' = false := by decide +kernel
  unfold lower
  rw [lowerAfter_append_cons hignorable hcased, hform, List.append_assoc]
  rfl

theorem lower_intercalate (ws : List (List Char)) :
    lower ([' '].intercalate ws) = [' '].intercalate (ws.map lower) := by
  induction ws with
  | nil => rfl
  | cons w rest ih =>
    cases rest with
    | nil => rw [List.intercalate_singleton, List.map_singleton, List.intercalate_singleton]
    | cons v more =>
      rw [List.intercalate_cons_cons, List.append_assoc, List.singleton_append,
        lower_append_space, ih, List.map_cons, List.map_cons, List.map_cons,
        List.intercalate_cons_cons, List.append_assoc, List.singleton_append]

end RichMarkdown.Text
