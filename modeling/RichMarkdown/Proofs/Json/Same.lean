import Mathlib.Data.List.Forall2
import RichMarkdown.Json.Basic

/-! JSON values that say the same: their objects have the same values for the same keys, in
whatever order. -/
namespace RichMarkdown

theorem rel_map_iff {α β γ δ : Type} {r : γ → δ → Prop} (f : α → γ) (g : β → δ) (a : Option α)
    (b : Option β) :
    Option.Rel r (a.map f) (b.map g) ↔ Option.Rel (fun x y => r (f x) (g y)) a b := by
  cases a <;> cases b <;> simp

theorem rel_eq_iff {α : Type} (a b : Option α) : Option.Rel (· = ·) a b ↔ a = b := by
  cases a <;> cases b <;> simp

theorem rel_congr {α β : Type} {r s : α → β → Prop} {a : Option α} {b : Option β}
    (h : ∀ x ∈ a, ∀ y, r x y ↔ s x y) : Option.Rel r a b ↔ Option.Rel s a b := by
  cases a <;> cases b <;> simp [h]

theorem rel_refl {α : Type} {r : α → α → Prop} (h : ∀ a, r a a) (a : Option α) :
    Option.Rel r a a := by
  cases a <;> simp [h]

theorem forall₂_congr_mem {α β : Type} {r s : α → β → Prop} {as : List α} {bs : List β}
    (h : ∀ a ∈ as, ∀ b, r a b ↔ s a b) : List.Forall₂ r as bs ↔ List.Forall₂ s as bs := by
  induction as generalizing bs with
  | nil => simp
  | cons a rest ih =>
    cases bs with
    | nil => simp
    | cons b bs =>
      rw [List.forall₂_cons, List.forall₂_cons, h a List.mem_cons_self,
        ih fun c hc => h c (List.mem_cons_of_mem a hc)]

theorem rel_ite {α β : Type} {r : α → β → Prop} {c : Prop} [Decidable c] {a b : Option α}
    {a' b' : Option β} (ha : Option.Rel r a a') (hb : Option.Rel r b b') :
    Option.Rel r (if c then a else b) (if c then a' else b') := by
  split
  · exact ha
  · exact hb

/-- Values that are alike but for the order of the keys of objects in them. -/
inductive Json.Same : Json → Json → Prop
  | refl (j : Json) : Same j j
  | arr {js ks : List Json} (items : List.Forall₂ Same js ks) : Same (.arr js) (.arr ks)
  | obj {fs gs : List (String × Json)}
      (fields : ∀ key, Option.Rel Same (Entries.get? key fs) (Entries.get? key gs)) :
      Same (.obj fs) (.obj gs)

namespace Json

theorem same_str_iff (a b : String) : Same (.str a) (.str b) ↔ a = b := by
  constructor
  · intro h
    cases h
    rfl
  · rintro rfl
    exact .refl _

theorem same_arr_iff (js ks : List Json) : Same (.arr js) (.arr ks) ↔ List.Forall₂ Same js ks := by
  constructor
  · intro h
    cases h with
    | refl => exact List.forall₂_same.mpr fun j _ => .refl j
    | arr items => exact items
  · exact .arr

theorem same_obj_iff (fs gs : List (String × Json)) : Same (.obj fs) (.obj gs) ↔
    ∀ key, Option.Rel Same (Entries.get? key fs) (Entries.get? key gs) := by
  constructor
  · intro h key
    cases h with
    | refl => exact rel_refl .refl _
    | obj fields => exact fields key
  · exact .obj

end Json

end RichMarkdown
