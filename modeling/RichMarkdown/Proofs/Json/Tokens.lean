import Mathlib.Tactic.SplitIfs
import RichMarkdown.Json.Printer
import RichMarkdown.Json.Reader

/-! Texts and numbers in JSON are read as they were written, whatever follows them. -/
namespace RichMarkdown.Json

theorem hex4?_hex {n : Nat} (h : n < 0x20) :
    ∃ a b c d, Text.hex 4 n = [a, b, c, d] ∧ hex4? a b c d = some n := by
  have hdigits : ∀ n < 0x20,
      Text.hex 4 n = ['0', '0', Nat.digitChar (n / 16), Nat.digitChar (n % 16)] ∧
        hex4? '0' '0' (Nat.digitChar (n / 16)) (Nat.digitChar (n % 16)) = some n := by
    decide
  exact ⟨_, _, _, _, hdigits n h⟩

section

variable {rest : List Char} {codes : List Nat} {after : List Char}

theorem readCodes_letter {e : Char} {n : Nat} (he : escaped? e = some n) (hu : e ≠ 'u')
    (h : readCodes rest = some (codes, after)) :
    readCodes ('\\' :: e :: rest) = some (n :: codes, after) := by
  simp [readCodes, hu, he, h]

theorem readCodes_escape (c : Char) (h : readCodes rest = some (codes, after)) :
    readCodes (escape c ++ rest) = some (c.toNat :: codes, after) := by
  unfold escape
  split_ifs with hself hb ht hn hf hr hcontrol
  · rcases (by simpa using hself : c = '"' ∨ c = '\\') with rfl | rfl <;>
      exact readCodes_letter rfl (by decide) h
  · exact readCodes_letter (hb ▸ rfl) (by decide) h
  · exact readCodes_letter (ht ▸ rfl) (by decide) h
  · exact readCodes_letter (hn ▸ rfl) (by decide) h
  · exact readCodes_letter (hf ▸ rfl) (by decide) h
  · exact readCodes_letter (hr ▸ rfl) (by decide) h
  · obtain ⟨w, x, y, z, hhex, hvalue⟩ := hex4?_hex hcontrol
    rw [hhex]
    simp [readCodes, hvalue, h]
  · simp only [Bool.or_eq_true, decide_eq_true_eq, not_or] at hself
    rw [List.singleton_append, readCodes.eq_def]
    simp [hself, hcontrol, h]

end

theorem readCodes_flatMap_escape (cs rest : List Char) :
    readCodes (cs.flatMap escape ++ '"' :: rest) = some (cs.map Char.toNat, rest) := by
  induction cs with
  | nil => rfl
  | cons c cs ih =>
    rw [List.flatMap_cons, List.append_assoc, readCodes_escape c ih]
    rfl

theorem not_surrogate (c : Char) :
    isHighSurrogate c.toNat = false ∧ isLowSurrogate c.toNat = false := by
  have hvalid : c.toNat < 0xD800 ∨ 0xDFFF < c.toNat ∧ c.toNat < 0x110000 := c.valid
  simp only [isHighSurrogate, isLowSurrogate, Bool.and_eq_false_iff, decide_eq_false_iff_not]
  omega

theorem charOfCode_toNat (c : Char) : charOfCode c.toNat = c := by
  obtain ⟨hhigh, hlow⟩ := not_surrogate c
  rw [charOfCode, hhigh, hlow]
  exact Char.ofNat_toNat c

theorem charsOfCodes_map_toNat (cs : List Char) : charsOfCodes (cs.map Char.toNat) = cs := by
  induction cs with
  | nil => rfl
  | cons c cs ih =>
    have hstep : charsOfCodes (c.toNat :: cs.map Char.toNat) =
        charOfCode c.toNat :: charsOfCodes (cs.map Char.toNat) := by
      cases cs with
      | nil => rfl
      | cons d ds => simp [charsOfCodes, (not_surrogate c).1]
    rw [List.map_cons, hstep, charOfCode_toNat, ih]

theorem readText_flatMap_escape (s : String) (rest : List Char) :
    readText (s.toList.flatMap escape ++ '"' :: rest) = some (s, rest) := by
  simp [readText, readCodes_flatMap_escape, charsOfCodes_map_toNat]

/-- What may stand after a value: nothing, or what parts it from the next or closes what it is in. -/
def Ends (rest : List Char) : Prop :=
  ∀ c ∈ rest.head?, c = ',' ∨ c = ']' ∨ c = '\x7d'

theorem ends_cons {c : Char} (h : c = ',' ∨ c = ']' ∨ c = '\x7d') (rest : List Char) :
    Ends (c :: rest) := by
  rintro _ ⟨⟩
  exact h

theorem digitsValue_toDigits (n : Nat) : digitsValue (Nat.toDigits 10 n) = n :=
  Nat.ofDigitChars_ten_toDigits

theorem isDigit_of_mem_toDigits {n : Nat} {c : Char} (h : c ∈ Nat.toDigits 10 n) : c.isDigit :=
  Nat.isDigit_of_mem_toDigits (by decide) (by decide) h

theorem toDigits_eq_cons (n : Nat) :
    ∃ d ds, Nat.toDigits 10 n = d :: ds ∧ d.isDigit ∧ (d = '0' → n = 0) := by
  induction n using Nat.strongRecOn with
  | _ n ih =>
    by_cases hsmall : n < 10
    · refine ⟨n.digitChar, [], Nat.toDigits_of_lt_base hsmall, ?_, Nat.digitChar_eq_zero.mp⟩
      simpa [Nat.isDigit_digitChar] using hsmall
    · obtain ⟨d, ds, hdigits, hdigit, hzero⟩ := ih (n / 10) (by omega)
      refine ⟨d, ds ++ [(n % 10).digitChar], ?_, hdigit, fun h => ?_⟩
      · rw [Nat.toDigits_of_base_le (by decide) (by omega), hdigits]
        rfl
      · have := hzero h
        omega

theorem takeWhile_isDigit (n : Nat) {rest : List Char} (hrest : Ends rest) :
    (Nat.toDigits 10 n ++ rest).takeWhile Char.isDigit = Nat.toDigits 10 n := by
  have hstop : rest.takeWhile Char.isDigit = [] := by
    cases rest with
    | nil => rfl
    | cons c r => rcases hrest c rfl with rfl | rfl | rfl <;> rfl
  rw [List.takeWhile_append_of_pos fun c => isDigit_of_mem_toDigits, hstop, List.append_nil]

theorem readNumber_toDigits (negative : Bool) (n : Nat) {rest : List Char} (hrest : Ends rest) :
    readNumber negative (Nat.toDigits 10 n ++ rest) =
      some (.int (if negative then -(n : Int) else n), rest) := by
  have hfraction : readFraction rest = ([], rest) := by
    cases rest with
    | nil => rfl
    | cons c r => rcases hrest c rfl with rfl | rfl | rfl <;> rfl
  have hpower : readPower rest = (none, rest) := by
    cases rest with
    | nil => rfl
    | cons c r => rcases hrest c rfl with rfl | rfl | rfl <;> rfl
  obtain ⟨d, ds, hdigits, -, hzero⟩ := toDigits_eq_cons n
  by_cases hd : d = '0'
  · obtain rfl := hzero hd
    simp [readNumber, hfraction, hpower, digitsValue]
  · have hwhole := takeWhile_isDigit n hrest
    unfold readNumber
    split
    · next heq =>
      rw [hdigits] at heq
      exact absurd (List.cons.inj heq).1 hd
    · simp [hwhole, Nat.toDigits_ne_nil, hfraction, hpower, digitsValue_toDigits]

end RichMarkdown.Json
