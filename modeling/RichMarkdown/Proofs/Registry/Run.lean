import RichMarkdown.Proofs.Registry.Lookup

/-! Runs of a registry, step after step, beside the same steps on a bare list of rules that has no
index. Both give the same answers, so the index never shows. -/
namespace RichMarkdown

inductive RegistryStep where
  | add (name : String) (rule : Rule)
  | remove (name : String)
  | find (type : String)
  | get (name : String)
  | contains (name : String)
  | names

inductive RegistryAnswer where
  | nothing
  | found (match? : Option (String × Rule))
  | rule (rule : Rule)
  | flag (value : Bool)
  | names (names : List String)

abbrev RegistryReply := Except ConvertError RegistryAnswer

namespace Registry

def perform (r : Registry) : RegistryStep → RegistryReply × Registry
  | .add name rule => (.ok .nothing, r.add name rule)
  | .remove name => (.ok .nothing, r.remove name)
  | .find type => ((r.find type).1.map .found, (r.find type).2)
  | .get name => match r.get? name with
    | some rule => (.ok (.rule rule), r)
    | none => (.error (.missingKey name), r)
  | .contains name => (.ok (.flag (r.contains name)), r)
  | .names => (.ok (.names r.names), r)

def answers (r : Registry) : List RegistryStep → List RegistryReply
  | [] => []
  | step :: rest => (r.perform step).1 :: (r.perform step).2.answers rest

def after (r : Registry) : List RegistryStep → Registry
  | [] => r
  | step :: rest => (r.perform step).2.after rest

end Registry

/-- Rules with their names in the order of registration. -/
abbrev Listing := List (String × Rule)

namespace Listing

def add (name : String) (rule : Rule) (rules : Listing) : Listing :=
  if rules.any (fun p => p.1 = name) then rules.map fun p => if p.1 = name then (name, rule) else p
  else rules ++ [(name, rule)]

def remove (name : String) (rules : Listing) : Listing :=
  rules.filter fun p => p.1 ≠ name

def ofPairs (pairs : List (String × Rule)) : Listing :=
  pairs.foldl (fun rules p => add p.1 p.2 rules) []

def perform (rules : Listing) : RegistryStep → RegistryReply × Listing
  | .add name rule => (.ok .nothing, add name rule rules)
  | .remove name => (.ok .nothing, remove name rules)
  | .find type => (.ok (.found (rules.find? fun p => p.2.claims.contains type)), rules)
  | .get name => match rules.find? fun p => p.1 = name with
    | some p => (.ok (.rule p.2), rules)
    | none => (.error (.missingKey name), rules)
  | .contains name => (.ok (.flag (rules.any fun p => p.1 = name)), rules)
  | .names => (.ok (.names (rules.map (·.1))), rules)

def answers (rules : Listing) : List RegistryStep → List RegistryReply
  | [] => []
  | step :: rest => (perform rules step).1 :: answers (perform rules step).2 rest

def after (rules : Listing) : List RegistryStep → Listing
  | [] => rules
  | step :: rest => after (perform rules step).2 rest

end Listing

/-- Steps among which further lookups are strewn: a lookup for a type, or a step of the run. -/
abbrev Strewn := List (String ⊕ RegistryStep)

namespace Strewn

def all (plan : Strewn) : List RegistryStep :=
  plan.map (Sum.elim .find id)

def own (plan : Strewn) : List RegistryStep :=
  plan.filterMap Sum.getRight?

def pick {α : Type} : Strewn → List α → List α
  | .inl _ :: plan, _ :: answers => pick plan answers
  | .inr _ :: plan, answer :: answers => answer :: pick plan answers
  | _, _ => []

end Strewn

namespace Registry

theorem Coherent.perform {r : Registry} (h : r.Coherent) (step : RegistryStep) :
    (r.perform step).2.Coherent := by
  cases step with
  | add name rule => exact h.add name rule
  | remove name => exact h.remove name
  | find type => exact h.find type
  | get name =>
    simp only [Registry.perform]
    split <;> exact h
  | contains name => exact h
  | names => exact h

theorem Coherent.after {r : Registry} (h : r.Coherent) (steps : List RegistryStep) :
    (r.after steps).Coherent := by
  induction steps generalizing r with
  | nil => exact h
  | cons step rest ih => exact ih (h.perform step)

theorem has_eq_any (name : String) (rules : Entries Rule) :
    rules.has name = rules.any fun p => p.1 = name := by
  rw [Entries.has, Entries.get?_eq_find?, Option.isSome_map, List.isSome_find?]

theorem Coherent.perform_eq {r : Registry} (h : r.Coherent) (step : RegistryStep) :
    ((r.perform step).1, (r.perform step).2.rules) = Listing.perform r.rules step := by
  cases step with
  | add name rule =>
    have hput := Entries.put_eq_map_or_append h.distinct name rule
    simp only [Registry.perform, Registry.add, Listing.perform, Listing.add, hput]
  | remove name =>
    have herase := Entries.erase_eq_filter h.distinct name
    simp only [Registry.perform, remove_rules, Listing.perform, Listing.remove, herase]
  | find type =>
    simp only [Registry.perform, h.find_eq, indexed_rules, Listing.perform, firstClaim, Except.map]
  | get name =>
    simp only [Registry.perform, get?, Entries.get?_eq_find?, Listing.perform]
    cases List.find? (fun p => decide (p.1 = name)) r.rules <;> rfl
  | contains name => simp only [Registry.perform, contains, has_eq_any, Listing.perform]
  | names => rfl

theorem Coherent.answers_eq {r : Registry} (h : r.Coherent) (steps : List RegistryStep) :
    r.answers steps = Listing.answers r.rules steps := by
  induction steps generalizing r with
  | nil => rfl
  | cons step rest ih =>
    have hstep := h.perform_eq step
    simp only [Registry.answers, Listing.answers, ← hstep, ih (h.perform step)]

theorem Coherent.after_eq {r : Registry} (h : r.Coherent) (steps : List RegistryStep) :
    (r.after steps).rules = Listing.after r.rules steps := by
  induction steps generalizing r with
  | nil => rfl
  | cons step rest ih =>
    have hstep := h.perform_eq step
    simp only [Registry.after, Listing.after, ← hstep, ih (h.perform step)]

theorem rules_ofPairs (pairs : List (String × Rule)) :
    (ofPairs pairs).rules = Listing.ofPairs pairs := by
  have general : ∀ (pairs : List (String × Rule)) (es : Entries Rule), es.keys.Nodup →
      pairs.foldl (fun es p => es.put p.1 p.2) es =
        pairs.foldl (fun rules p => Listing.add p.1 p.2 rules) es := by
    intro pairs
    induction pairs with
    | nil => intro es _; rfl
    | cons p rest ih =>
      intro es hes
      rw [List.foldl_cons, List.foldl_cons, ih _ (Entries.nodup_keys_put hes p.1 p.2),
        Entries.put_eq_map_or_append hes, Listing.add]
  exact general pairs [] List.nodup_nil

end Registry

theorem Listing.pick_answers (plan : Strewn) (rules : Listing) :
    plan.pick (answers rules plan.all) = answers rules plan.own := by
  induction plan generalizing rules with
  | nil => rfl
  | cons item rest ih =>
    cases item with
    | inl type => exact ih rules
    | inr step =>
      exact congrArg ((perform rules step).1 :: ·) (ih (perform rules step).2)

namespace Registry

/-- The index never goes stale. Whatever rules a registry starts with and whatever steps it takes,
it answers as the bare list of its rules does; a lookup finds the first rule that claims the type,
or nothing if none does, and does not fail; and further lookups anywhere in a run change no
answer. -/
theorem lookup_never_stale (pairs : List (String × Rule)) :
    (∀ steps, (ofPairs pairs).answers steps = Listing.answers (Listing.ofPairs pairs) steps) ∧
    (∀ steps type, ∃ found,
      (((ofPairs pairs).after steps).find type).1 = .ok found ∧
      ((ofPairs pairs).after steps).rules = Listing.after (Listing.ofPairs pairs) steps ∧
      (found = none ↔ ∀ p ∈ ((ofPairs pairs).after steps).rules, type ∉ p.2.claims) ∧
      ∀ p, found = some p ↔ type ∈ p.2.claims ∧
        ∃ before rest, ((ofPairs pairs).after steps).rules = before ++ p :: rest ∧
          ∀ q ∈ before, type ∉ q.2.claims) ∧
    ∀ plan : Strewn, plan.pick ((ofPairs pairs).answers plan.all) =
      (ofPairs pairs).answers plan.own := by
  have hstart := coherent_ofPairs pairs
  refine ⟨fun steps => ?_, fun steps type => ?_, fun plan => ?_⟩
  · rw [hstart.answers_eq, rules_ofPairs]
  · have hafter := hstart.after steps
    refine ⟨firstClaim type ((ofPairs pairs).after steps).rules, ?_, ?_, ?_, ?_⟩
    · rw [hafter.find_eq]
    · rw [hstart.after_eq, rules_ofPairs]
    · exact firstClaim_eq_none_iff type _
    · exact firstClaim_eq_some_iff type _
  · rw [hstart.answers_eq, hstart.answers_eq]
    exact Listing.pick_answers plan _

end Registry

end RichMarkdown
