import RichMarkdown.Proofs.Text.FinalSigma
import RichMarkdown.Source.Identifier

/-! Identifiers of references. An identifier is in the form that identifiers have, and it is built
from the words of its label one by one. -/
namespace RichMarkdown.Source

open Text (isSpace wordsBy collapseBy lower lowerChar IsWord Collapsed FinalSigmaAfter)

def labelWords (label : String) : List (List Char) :=
  (wordsBy isSpace label.toList).map lower

theorem isWord_of_mem_labelWords {label : String} {w : List Char} (h : w ∈ labelWords label) :
    IsWord isSpace w := by
  obtain ⟨v, hv, rfl⟩ := List.mem_map.mp h
  exact (Text.isWord_of_mem hv).lower

theorem toList_normalizeIdentifier (label : String) :
    (normalizeIdentifier label).toList = [' '].intercalate (labelWords label) := by
  rw [normalizeIdentifier, String.toList_ofList, collapseBy, Text.lower_intercalate, labelWords]

theorem labelWords_normalizeIdentifier (label : String) :
    labelWords (normalizeIdentifier label) = labelWords label := by
  rw [labelWords, toList_normalizeIdentifier,
    Text.wordsBy_intercalate (by decide) fun w => isWord_of_mem_labelWords, labelWords,
    List.map_map]
  exact List.map_congr_left fun w _ => Text.lower_lower w

theorem normalizeIdentifier_normalizeIdentifier (label : String) :
    normalizeIdentifier (normalizeIdentifier label) = normalizeIdentifier label := by
  apply String.toList_injective
  rw [toList_normalizeIdentifier, labelWords_normalizeIdentifier, toList_normalizeIdentifier]

theorem labelWords_append {a w b : String} (hne : w ≠ "") (hw : ∀ c ∈ w.toList, isSpace c) :
    labelWords (a ++ w ++ b) = labelWords a ++ labelWords b := by
  have hchars : w.toList ≠ [] := by simpa using hne
  rw [labelWords, String.toList_append, String.toList_append,
    Text.wordsBy_append_blank_append hchars hw, List.map_append, labelWords, labelWords]

theorem labelWords_ne_nil {label : String} (h : ∃ c ∈ label.toList, isSpace c = false) :
    labelWords label ≠ [] := by
  intro hnil
  exact Text.wordsBy_ne_nil h (List.map_eq_nil_iff.mp hnil)

/-- An identifier is its own identifier, it has no white space but single plain spaces between its
words, and the identifier of two labels with white space between them is that of the one, a space
and that of the other. -/
theorem normalizeIdentifier_canonical :
    (∀ label, normalizeIdentifier (normalizeIdentifier label) = normalizeIdentifier label ∧
      Collapsed isSpace ' ' (normalizeIdentifier label).toList) ∧
    ∀ a w b : String, (∃ c ∈ a.toList, isSpace c = false) → (∃ c ∈ b.toList, isSpace c = false) →
      w ≠ "" → (∀ c ∈ w.toList, isSpace c) →
      normalizeIdentifier (a ++ w ++ b) =
        normalizeIdentifier a ++ " " ++ normalizeIdentifier b := by
  constructor
  · intro label
    refine ⟨normalizeIdentifier_normalizeIdentifier label, ?_⟩
    rw [toList_normalizeIdentifier]
    exact Text.collapsed_intercalate fun w => isWord_of_mem_labelWords
  · intro a w b ha hb hne hw
    apply String.toList_injective
    rw [toList_normalizeIdentifier, labelWords_append hne hw,
      Text.intercalate_append (labelWords_ne_nil ha) (labelWords_ne_nil hb),
      String.toList_append, String.toList_append, toList_normalizeIdentifier,
      toList_normalizeIdentifier, List.append_assoc]
    rfl

theorem capitals_canonical :
    (∃ c ∈ " ΟΔΟΣ".toList, isSpace c = false) ∧ (∃ c ∈ "İΣ".toList, isSpace c = false) ∧
    "\u2003\t" ≠ "" ∧ (∀ c ∈ "\u2003\t".toList, isSpace c) ∧
    normalizeIdentifier (" ΟΔΟΣ" ++ "\u2003\t" ++ "İΣ") =
      normalizeIdentifier " ΟΔΟΣ" ++ " " ++ normalizeIdentifier "İΣ" ∧
    normalizeIdentifier " ΟΔΟΣ" = "οδος" := by
  have ha : ∃ c ∈ " ΟΔΟΣ".toList, isSpace c = false := ⟨'Δ', by decide, by decide⟩
  have hb : ∃ c ∈ "İΣ".toList, isSpace c = false := ⟨'Σ', by decide, by decide⟩
  have hw : ∀ c ∈ "\u2003\t".toList, isSpace c := List.all_eq_true.mp (by decide)
  exact ⟨ha, hb, by decide, hw, normalizeIdentifier_canonical.2 _ _ _ ha hb (by decide) hw,
    by decide +kernel⟩

/-- A label with its white space collapsed and each of its characters lower-cased on its own. -/
def caseless (label : String) : List Char :=
  (collapseBy isSpace label.toList).flatMap lowerChar

def SameFinalSigmas (a b : String) : Prop :=
  ∀ i, FinalSigmaAfter [] (collapseBy isSpace a.toList) i ↔
    FinalSigmaAfter [] (collapseBy isSpace b.toList) i

theorem sigma_mem_of_finalSigmaAfter {label : String} {i : Nat}
    (h : FinalSigmaAfter [] (collapseBy isSpace label.toList) i) : 'Σ' ∈ label.toList := by
  obtain ⟨before, after, hlabel, -⟩ := h
  have hmem : 'Σ' ∈ collapseBy isSpace label.toList := by
    rw [hlabel]
    exact List.mem_append_right before List.mem_cons_self
  have hkept : 'Σ' ∈ (collapseBy isSpace label.toList).filter fun c => !isSpace c :=
    List.mem_filter.mpr ⟨hmem, by decide⟩
  rw [Text.filter_collapseBy (by decide)] at hkept
  exact (List.mem_filter.mp hkept).1

theorem sameFinalSigmas_of_notMem {a b : String} (ha : 'Σ' ∉ a.toList) (hb : 'Σ' ∉ b.toList) :
    SameFinalSigmas a b :=
  fun _ => iff_of_false (fun h => ha (sigma_mem_of_finalSigmaAfter h))
    fun h => hb (sigma_mem_of_finalSigmaAfter h)

theorem normalizeIdentifier_eq_iff {a b : String} (h : caseless a = caseless b) :
    normalizeIdentifier a = normalizeIdentifier b ↔ SameFinalSigmas a b := by
  have hlower := Text.lower_eq_lower_iff h
  rw [normalizeIdentifier, normalizeIdentifier, String.ofList_inj, hlower]
  rfl

end RichMarkdown.Source
