import RichMarkdown.Proofs.Entries
import RichMarkdown.Proofs.Json.Tokens

/-! Values of JSON without decimals are read as they were written. -/
namespace RichMarkdown.Json

/-- Values without decimals and without two fields of one name. -/
inductive Plain : Json → Prop
  | null : Plain null
  | bool (b : Bool) : Plain (bool b)
  | int (n : Int) : Plain (int n)
  | str (s : String) : Plain (str s)
  | arr {items : List Json} (parts : ∀ j ∈ items, Plain j) : Plain (arr items)
  | obj {fields : List (String × Json)} (distinct : (Entries.keys fields).Nodup)
      (parts : ∀ f ∈ fields, Plain f.2) : Plain (obj fields)

/-- The value is read from its written form whatever stands after it, in at most as many steps as
the form has characters. -/
def ReadsBack (j : Json) : Prop :=
  ∀ bound rest, j.render.length ≤ bound → Ends rest →
    readValue (bound + 1) (j.render ++ rest) = some (j, rest)

theorem readValue_digit {bound : Nat} {d : Char} {rest : List Char} (h : d.isDigit) :
    readValue (bound + 1) (d :: rest) = readNumber false (d :: rest) := by
  rw [readValue]
  all_goals
    intro r heq
    obtain rfl := (List.cons.inj heq).1
    exact absurd h (by decide)

theorem readValue_minus {bound : Nat} {d : Char} {rest : List Char} (h : d.isDigit) :
    readValue (bound + 1) ('-' :: d :: rest) = readNumber true (d :: rest) := by
  rw [readValue]
  intro r heq
  obtain rfl := (List.cons.inj heq).1
  exact absurd h (by decide)

theorem readsBack_int (n : Int) : ReadsBack (.int n) := by
  intro bound rest _ hrest
  obtain ⟨d, ds, hdigits, hdigit, -⟩ := toDigits_eq_cons n.natAbs
  have hread (negative : Bool) := readNumber_toDigits negative n.natAbs hrest
  simp only [hdigits, List.cons_append] at hread
  rw [render, renderInt, hdigits]
  split
  · next hn =>
    have hvalue : -(n.natAbs : Int) = n := by omega
    rw [List.cons_append, List.cons_append, readValue_minus hdigit, hread, if_pos rfl, hvalue]
  · next hn =>
    have hvalue : (n.natAbs : Int) = n := by omega
    rw [List.cons_append, readValue_digit hdigit, hread, if_neg Bool.false_ne_true, hvalue]

theorem readsBack_str (s : String) : ReadsBack (.str s) := by
  intro bound rest _ _
  have hrender : (Json.str s).render ++ rest = '"' :: (s.toList.flatMap escape ++ '"' :: rest) := by
    simp [render, renderText]
  rw [hrender, readValue, readText_flatMap_escape]
  rfl

def Begins (s : List Char) : Prop :=
  ∃ c cs, s = c :: cs ∧ c ∉ [' ', '\t', '\n', '\r', ']', '\x7d']

theorem Begins.append {s : List Char} (h : Begins s) (t : List Char) : Begins (s ++ t) := by
  obtain ⟨c, cs, rfl, hc⟩ := h
  exact ⟨c, cs ++ t, rfl, hc⟩

theorem Begins.skipSpace_eq {s : List Char} (h : Begins s) : skipSpace s = s := by
  obtain ⟨c, cs, rfl, hc⟩ := h
  simp only [List.mem_cons, not_or] at hc
  simp [skipSpace, hc]

theorem begins_renderText (s : String) : Begins (renderText s) :=
  ⟨'"', _, rfl, by decide⟩

theorem begins_of_readValue {bound : Nat} {s : List Char} {v : Json × List Char}
    (h : readValue bound s = some v) : Begins s := by
  obtain _ | bound := bound
  · simp [readValue] at h
  · cases s with
    | nil => simp [readValue, readNumber] at h
    | cons c rest =>
      refine ⟨c, rest, rfl, fun hc => ?_⟩
      have hnone : readValue (bound + 1) (c :: rest) = none := by
        simp only [List.mem_cons, List.not_mem_nil, or_false] at hc
        rcases hc with rfl | rfl | rfl | rfl | rfl | rfl <;> rfl
      rw [hnone] at h
      cases h

theorem ReadsBack.begins {j : Json} (h : ReadsBack j) : Begins j.render := by
  have hread := h j.render.length [] (Nat.le_refl _) nofun
  rw [List.append_nil] at hread
  exact begins_of_readValue hread

section

variable {bound : Nat} {s t rest : List Char} {j : Json} {items : List Json} {name : String}
  {fields : List (String × Json)}

theorem readValue_bracket (hs : Begins s) (h : readItems bound s = some (items, rest)) :
    readValue (bound + 1) ('[' :: s) = some (arr items, rest) := by
  have hskip := hs.skipSpace_eq
  obtain ⟨c, cs, rfl, hc⟩ := hs
  have hclose : c ≠ ']' := fun heq => hc (by simp [heq])
  simp [readValue, hskip, hclose, h]

theorem readValue_brace (hs : Begins s) (h : readFields bound s = some (fields, rest)) :
    readValue (bound + 1) ('\x7b' :: s) = some (obj (Entries.ofPairs fields), rest) := by
  have hskip := hs.skipSpace_eq
  obtain ⟨c, cs, rfl, hc⟩ := hs
  have hclose : c ≠ '\x7d' := fun heq => hc (by simp [heq])
  simp [readValue, hskip, hclose, h]

theorem readItems_last (h : readValue bound s = some (j, ']' :: rest)) :
    readItems (bound + 1) s = some ([j], rest) := by
  rw [readItems, h]
  rfl

theorem readItems_more (h : readValue bound s = some (j, ',' :: t)) (ht : Begins t)
    (hmore : readItems bound t = some (items, rest)) :
    readItems (bound + 1) s = some (j :: items, rest) := by
  rw [readItems, h]
  have hcomma : skipSpace (',' :: t) = ',' :: t := rfl
  simp [hcomma, ht.skipSpace_eq, hmore]

theorem readFields_last (hs : Begins s) (h : readValue bound s = some (j, '\x7d' :: rest)) :
    readFields (bound + 1) (renderText name ++ ':' :: s) = some ([(name, j)], rest) := by
  have hcolon : skipSpace (':' :: s) = ':' :: s := rfl
  have hclose : skipSpace ('\x7d' :: rest) = '\x7d' :: rest := rfl
  simp [renderText, readFields, readText_flatMap_escape, hcolon, hs.skipSpace_eq, h, hclose]

theorem readFields_more (hs : Begins s) (h : readValue bound s = some (j, ',' :: t))
    (ht : Begins t) (hmore : readFields bound t = some (fields, rest)) :
    readFields (bound + 1) (renderText name ++ ':' :: s) = some ((name, j) :: fields, rest) := by
  have hcolon : skipSpace (':' :: s) = ':' :: s := rfl
  have hcomma : skipSpace (',' :: t) = ',' :: t := rfl
  simp [renderText, readFields, readText_flatMap_escape, hcolon, hs.skipSpace_eq, h, hcomma,
    ht.skipSpace_eq, hmore]

end

theorem begins_renderItems {items : List Json} (hitems : ∀ j ∈ items, ReadsBack j)
    (hne : items ≠ []) : Begins (renderItems items) := by
  cases items with
  | nil => exact absurd rfl hne
  | cons j js =>
    have hj := (hitems j List.mem_cons_self).begins
    cases js with
    | nil => exact hj
    | cons k ks => exact hj.append _

theorem begins_renderFields {fields : List (String × Json)} (hne : fields ≠ []) :
    Begins (renderFields fields) := by
  obtain _ | ⟨⟨name, j⟩, _ | ⟨f, fs⟩⟩ := fields
  · exact absurd rfl hne
  · exact (begins_renderText name).append _
  · rw [renderFields, List.append_assoc]
    exact (begins_renderText name).append _

theorem readItems_renderItems {items : List Json} (hitems : ∀ j ∈ items, ReadsBack j)
    (hne : items ≠ []) {bound : Nat} (hbound : (renderItems items).length < bound)
    (rest : List Char) :
    readItems (bound + 1) (renderItems items ++ ']' :: rest) = some (items, rest) := by
  -- Every item takes a step of the bound, which the comma or the bracket after it pays for.
  induction items generalizing bound with
  | nil => exact absurd rfl hne
  | cons j js ih =>
    obtain ⟨bound, rfl⟩ : ∃ b, bound = b + 1 := ⟨bound - 1, by omega⟩
    have hj := hitems j List.mem_cons_self
    cases js with
    | nil =>
      rw [renderItems] at hbound ⊢
      exact readItems_last (hj bound _ (by omega) (ends_cons (by simp) rest))
    | cons k ks =>
      rw [renderItems, List.length_append, List.length_cons] at hbound
      rw [renderItems, List.append_assoc, List.cons_append]
      have hjs : ∀ i ∈ k :: ks, ReadsBack i := fun i hi => hitems i (List.mem_cons_of_mem j hi)
      have hks : k :: ks ≠ [] := List.cons_ne_nil k ks
      refine readItems_more (hj bound _ (by omega) (ends_cons (by simp) _)) ?_
        (ih hjs hks (by omega))
      exact (begins_renderItems hjs hks).append _

theorem readFields_renderFields {fields : List (String × Json)}
    (hfields : ∀ f ∈ fields, ReadsBack f.2) (hne : fields ≠ []) {bound : Nat}
    (hbound : (renderFields fields).length < bound) (rest : List Char) :
    readFields (bound + 1) (renderFields fields ++ '\x7d' :: rest) = some (fields, rest) := by
  induction fields generalizing bound with
  | nil => exact absurd rfl hne
  | cons f fs ih =>
    obtain ⟨name, j⟩ := f
    obtain ⟨bound, rfl⟩ : ∃ b, bound = b + 1 := ⟨bound - 1, by omega⟩
    have hj : ReadsBack j := hfields (name, j) List.mem_cons_self
    cases fs with
    | nil =>
      rw [renderFields, List.length_append, List.length_cons] at hbound
      rw [renderFields, List.append_assoc, List.cons_append]
      exact readFields_last (hj.begins.append _) (hj bound _ (by omega) (ends_cons (by simp) rest))
    | cons g gs =>
      simp only [renderFields, List.length_append, List.length_cons] at hbound
      simp only [renderFields, List.append_assoc, List.cons_append]
      refine readFields_more (hj.begins.append _) (hj bound _ (by omega) (ends_cons (by simp) _))
        ?_ (ih (fun f hf => hfields f (List.mem_cons_of_mem _ hf)) (List.cons_ne_nil g gs)
          (by omega))
      exact (begins_renderFields (List.cons_ne_nil g gs)).append _

theorem readsBack_arr {items : List Json} (hitems : ∀ j ∈ items, ReadsBack j) :
    ReadsBack (.arr items) := by
  intro bound rest hbound _
  by_cases hne : items = []
  · subst hne
    rfl
  · simp only [render, List.length_append, List.length_cons, List.length_nil] at hbound
    obtain ⟨bound, rfl⟩ : ∃ b, bound = b + 1 := ⟨bound - 1, by omega⟩
    have hread : readItems (bound + 1) (renderItems items ++ ']' :: rest) = some (items, rest) :=
      readItems_renderItems hitems hne (by omega) rest
    rw [render, List.append_assoc]
    exact readValue_bracket ((begins_renderItems hitems hne).append _) hread

theorem readsBack_obj {fields : List (String × Json)} (hdistinct : (Entries.keys fields).Nodup)
    (hfields : ∀ f ∈ fields, ReadsBack f.2) : ReadsBack (.obj fields) := by
  intro bound rest hbound _
  by_cases hne : fields = []
  · subst hne
    rfl
  · simp only [render, List.length_append, List.length_cons, List.length_nil] at hbound
    obtain ⟨bound, rfl⟩ : ∃ b, bound = b + 1 := ⟨bound - 1, by omega⟩
    have hread : readFields (bound + 1) (renderFields fields ++ '\x7d' :: rest) =
        some (fields, rest) :=
      readFields_renderFields hfields hne (by omega) rest
    have hvalue := readValue_brace ((begins_renderFields hne).append _) hread
    rw [Entries.ofPairs_of_nodup hdistinct] at hvalue
    rw [render, List.append_assoc]
    exact hvalue

theorem Plain.readsBack {j : Json} (h : Plain j) : ReadsBack j := by
  induction h with
  | null => exact fun _ _ _ _ => rfl
  | bool b => cases b <;> exact fun _ _ _ _ => rfl
  | int n => exact readsBack_int n
  | str s => exact readsBack_str s
  | arr _ ih => exact readsBack_arr ih
  | obj hdistinct _ ih => exact readsBack_obj hdistinct ih

/-- The written form of a plain value reads as the value, so no two of them are written alike. -/
theorem read?_compact {j : Json} (h : Plain j) : read? j.compact = some j := by
  have hread := h.readsBack (2 * j.render.length) [] (by omega) nofun
  rw [List.append_nil] at hread
  have hend : skipSpace [] = [] := rfl
  simp [read?, compact, h.readsBack.begins.skipSpace_eq, hread, hend]

end RichMarkdown.Json
