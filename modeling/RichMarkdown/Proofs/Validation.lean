import Mathlib.Data.List.Forall2
import RichMarkdown.Validation

/-! When a check passes, and what it gives then. -/
namespace RichMarkdown.Check

variable {α β γ : Type}

theorem map2_eq_ok_iff {f : α → β → γ} {x : Check α} {y : Check β} {c : γ} :
    map2 f x y = .ok c ↔ ∃ a b, x = .ok a ∧ y = .ok b ∧ f a b = c := by
  cases x <;> cases y <;> simp [map2]

theorem app_eq_ok_iff {f : Check (α → β)} {x : Check α} {b : β} :
    app f x = .ok b ↔ ∃ g a, f = .ok g ∧ x = .ok a ∧ g a = b :=
  map2_eq_ok_iff

theorem map_eq_ok_iff {f : α → β} {x : Check α} {b : β} :
    x.map f = .ok b ↔ ∃ a, x = .ok a ∧ f a = b := by
  cases x <;> simp [Except.map]

theorem under_eq_ok_iff {step : PathStep} {x : Check α} {a : α} :
    under step x = .ok a ↔ x = .ok a := by
  cases x <;> simp [under]

theorem mapError_titled_eq_ok_iff {ε : Type} {f : Invalid → ε} {title : String} {x : Check α}
    {a : α} : (titled title x).mapError f = .ok a ↔ x = .ok a := by
  cases x <;> simp [titled, Except.mapError]

theorem optional_eq_ok_iff {check : Json → Check α} (hnull : ∀ a, check .null ≠ .ok a) {j : Json}
    {value : Option α} : optional check j = .ok value ↔
      (j = .null ∧ value = none) ∨ ∃ a, check j = .ok a ∧ value = some a := by
  have hsome (k : Json) :
      (check k).map some = .ok value ↔ ∃ a, check k = .ok a ∧ value = some a := by
    rw [map_eq_ok_iff]
    exact exists_congr fun a => and_congr_right fun _ => eq_comm
  cases j with
  | null => simp [optional, hnull, eq_comm (a := none)]
  | _ => simp only [optional, hsome, reduceCtorEq, false_and, false_or]

theorem items_eq_ok_iff {check : Json → Check α} {n : Nat} {js : List Json} {as : List α} :
    items check n js = .ok as ↔ List.Forall₂ (fun j a => check j = .ok a) js as := by
  induction js generalizing n as with
  | nil => cases as <;> simp [items]
  | cons j rest ih =>
    rw [items, map2_eq_ok_iff]
    cases as with
    | nil => simp
    | cons a as => simp [under_eq_ok_iff, ih]

theorem text_eq_ok_iff {j : Json} {s : String} : text j = .ok s ↔ j = .str s := by
  cases j <;> simp [text, fail]

theorem list_text_eq_ok_iff {j : Json} {ss : List String} :
    list text j = .ok ss ↔ j = .ofTexts ss := by
  cases j with
  | arr js =>
    simp only [list, items_eq_ok_iff, text_eq_ok_iff, Json.ofTexts, Json.arr.injEq]
    rw [← List.forall₂_map_right_iff (R := (· = ·)), List.forall₂_eq_eq_eq]
  | _ => simp [list, fail, Json.ofTexts]

end RichMarkdown.Check
