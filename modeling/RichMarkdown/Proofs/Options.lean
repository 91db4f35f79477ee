import RichMarkdown.Options
import RichMarkdown.Proofs.Validation

/-! Where the options of a conversion come from. Options that were built once are in order, and they
are built again from their own values in whatever environment. -/
namespace RichMarkdown.Options

/-- The environment has no list of types, or one that is JSON. -/
def Readable (environment : List (String × String)) : Prop :=
  ∀ s, setting? "ignores" environment = some s → (Json.read? s).isSome

def listSetting (environment : List (String × String)) : Option Json :=
  ((setting? "ignores" environment).bind Json.read?).filter (!·.isNull)

def textSetting (name : String) (environment : List (String × String)) : Option Json :=
  (setting? name environment).map .str

/-- A value read off the explicit one, if there is one, or else off the one that the environment
sets, or else the default. -/
structure Taken {α : Type} (Reads : Json → α → Prop) (default : α) (explicit setting : Option Json)
    (value : α) : Prop where
  of_explicit : ∀ j, explicit = some j → Reads j value
  of_setting : explicit = none → ∀ j, setting = some j → Reads j value
  of_default : explicit = none → setting = none → value = default

def ReadsIgnores (j : Json) (ignores : List String) : Prop :=
  ∃ types, j = .ofTexts types ∧ ignores = if types = [] then defaultIgnores else types

def ReadsMaxDepth (j : Json) (maxDepth : Option Int) : Prop :=
  (j = .null ∧ maxDepth = none) ∨ ∃ n, Check.number j = .ok n ∧ 1 ≤ n ∧ maxDepth = some n

structure Sourced (environment : List (String × String)) (options : List (String × Json))
    (o : Options) : Prop where
  ignores : Taken ReadsIgnores defaultIgnores (given? "ignores" options) (listSetting environment)
    o.ignores
  cascade : Taken (fun j flag => Check.flag j = .ok flag) true (given? "cascade" options)
    (textSetting "cascade" environment) o.cascade
  maxDepth : Taken ReadsMaxDepth none (given? "max_depth" options)
    (textSetting "max_depth" environment) o.maxDepth

def explicit (o : Options) : List (String × Json) :=
  [("ignores", .ofTexts o.ignores), ("cascade", .bool o.cascade),
    ("max_depth", .ofOption .int o.maxDepth)]

section

variable {α : Type} {Reads : Json → α → Prop} {default value : α}

theorem taken_some_iff {j : Json} {setting : Option Json} :
    Taken Reads default (some j) setting value ↔ Reads j value := by
  constructor
  · intro h
    exact h.of_explicit j rfl
  · intro h
    refine ⟨fun k hk => ?_, nofun, nofun⟩
    cases hk
    exact h

theorem taken_none_some_iff {j : Json} :
    Taken Reads default none (some j) value ↔ Reads j value := by
  constructor
  · intro h
    exact h.of_setting rfl j rfl
  · intro h
    refine ⟨nofun, fun _ k hk => ?_, nofun⟩
    cases hk
    exact h

theorem taken_none_none_iff : Taken Reads default none none value ↔ value = default :=
  ⟨fun h => h.of_default rfl rfl, fun h => ⟨nofun, nofun, fun _ _ => h⟩⟩

theorem pick_eq_ok_iff {name : String} {check : Json → Check α}
    (hreads : ∀ j a, check j = .ok a ↔ Reads j a) {explicit setting : Option Json} :
    pick name check default explicit setting = .ok value ↔
      Taken Reads default explicit setting value := by
  cases explicit with
  | some j =>
    rw [taken_some_iff, ← hreads]
    exact Check.under_eq_ok_iff
  | none =>
    cases setting with
    | some j =>
      rw [taken_none_some_iff, ← hreads]
      exact Check.under_eq_ok_iff
    | none =>
      rw [taken_none_none_iff]
      exact ⟨fun h => (Except.ok.inj h).symm, fun h => congrArg Except.ok h.symm⟩

end

theorem checkIgnores_eq_ok_iff (j : Json) (ignores : List String) :
    checkIgnores j = .ok ignores ↔ ReadsIgnores j ignores := by
  rw [checkIgnores, Check.map_eq_ok_iff, ReadsIgnores]
  simp only [Check.list_text_eq_ok_iff, List.isEmpty_iff, eq_comm (a := ignores)]

theorem checkMaxDepth_eq_ok_iff (j : Json) (maxDepth : Option Int) :
    checkMaxDepth j = .ok maxDepth ↔ ReadsMaxDepth j maxDepth := by
  have hlimit : checkMaxDepth j = .ok maxDepth ↔
      Check.optional Check.number j = .ok maxDepth ∧ ∀ n ∈ maxDepth, 1 ≤ n := by
    unfold checkMaxDepth
    rcases Check.optional Check.number j with issues | _ | n
    · simp
    · cases maxDepth <;> simp
    · by_cases hn : n < 1
      · cases maxDepth <;> simp [hn, Check.fail]
        omega
      · cases maxDepth <;> simp [hn]
        omega
  have hnull : ∀ n, Check.number .null ≠ .ok n := by
    intro n h
    cases h
  rw [hlimit, Check.optional_eq_ok_iff hnull, ReadsMaxDepth]
  constructor
  · rintro ⟨⟨rfl, rfl⟩ | ⟨n, hnumber, rfl⟩, hn⟩
    · exact .inl ⟨rfl, rfl⟩
    · exact .inr ⟨n, hnumber, hn n rfl, rfl⟩
  · rintro (⟨rfl, rfl⟩ | ⟨n, hnumber, hn, rfl⟩)
    · exact ⟨.inl ⟨rfl, rfl⟩, by simp⟩
    · exact ⟨.inr ⟨n, hnumber, rfl⟩, by simpa using hn⟩

theorem ignoresSetting_eq_ok_iff {environment : List (String × String)} {setting : Option Json} :
    ignoresSetting environment = .ok setting ↔
      Readable environment ∧ listSetting environment = setting := by
  unfold ignoresSetting Readable listSetting
  cases setting? "ignores" environment with
  | none => simp
  | some s =>
    cases hread : Json.read? s with
    | none => simp [hread]
    | some j => cases j <;> simp [hread, Json.isNull, Option.filter]

theorem build_eq_ok_iff {environment : List (String × String)} {options : List (String × Json)}
    {o : Options} :
    build environment options = .ok o ↔ Readable environment ∧ Sourced environment options o := by
  have hbuild : build environment options = .ok o ↔ ∃ setting,
      ignoresSetting environment = .ok setting ∧
      pick "ignores" checkIgnores defaultIgnores (given? "ignores" options) setting =
        .ok o.ignores ∧
      pick "cascade" Check.flag true (given? "cascade" options)
        (textSetting "cascade" environment) = .ok o.cascade ∧
      pick "max_depth" checkMaxDepth none (given? "max_depth" options)
        (textSetting "max_depth" environment) = .ok o.maxDepth := by
    unfold build
    cases ignoresSetting environment with
    | error e => simp [bind, Except.bind]
    | ok setting =>
      simp only [bind, Except.bind, Check.mapError_titled_eq_ok_iff, Check.app_eq_ok_iff,
        Check.map2_eq_ok_iff, Except.ok.injEq, exists_eq_left']
      constructor
      · rintro ⟨_, maxDepth, ⟨ignores, cascade, hignores, hcascade, rfl⟩, hdepth, rfl⟩
        exact ⟨hignores, hcascade, hdepth⟩
      · rintro ⟨hignores, hcascade, hdepth⟩
        exact ⟨_, _, ⟨_, _, hignores, hcascade, rfl⟩, hdepth, rfl⟩
  rw [hbuild]
  simp only [ignoresSetting_eq_ok_iff, pick_eq_ok_iff checkIgnores_eq_ok_iff,
    pick_eq_ok_iff checkMaxDepth_eq_ok_iff]
  rw [pick_eq_ok_iff fun _ _ => Iff.rfl]
  constructor
  · rintro ⟨_, ⟨hreadable, rfl⟩, hignores, hcascade, hdepth⟩
    exact ⟨hreadable, hignores, hcascade, hdepth⟩
  · rintro ⟨hreadable, hignores, hcascade, hdepth⟩
    exact ⟨_, ⟨hreadable, rfl⟩, hignores, hcascade, hdepth⟩

theorem ReadsIgnores.ne_nil {j : Json} {ignores : List String} (h : ReadsIgnores j ignores) :
    ignores ≠ [] := by
  obtain ⟨types, -, rfl⟩ := h
  split
  · decide
  · assumption

theorem ReadsMaxDepth.one_le {j : Json} {maxDepth : Option Int} (h : ReadsMaxDepth j maxDepth) :
    ∀ n ∈ maxDepth, 1 ≤ n := by
  rcases h with ⟨-, rfl⟩ | ⟨n, -, hn, rfl⟩
  · nofun
  · rintro _ ⟨⟩
    exact hn

theorem Taken.holds {α : Type} {Reads : Json → α → Prop} {default value : α}
    {explicit setting : Option Json} (h : Taken Reads default explicit setting value)
    {good : α → Prop} (hread : ∀ j a, Reads j a → good a) (hdefault : good default) :
    good value := by
  cases explicit with
  | some j => exact hread j value (taken_some_iff.mp h)
  | none =>
    cases setting with
    | some j => exact hread j value (taken_none_some_iff.mp h)
    | none => exact taken_none_none_iff.mp h ▸ hdefault

theorem sourced_explicit {o : Options} (hignores : o.ignores ≠ [])
    (hdepth : ∀ n ∈ o.maxDepth, 1 ≤ n) (environment : List (String × String)) :
    Sourced environment o.explicit o := by
  refine ⟨?_, ?_, ?_⟩
  · exact taken_some_iff.mpr ⟨o.ignores, rfl, (if_neg hignores).symm⟩
  · exact taken_some_iff.mpr rfl
  · refine taken_some_iff.mpr ?_
    cases hvalue : o.maxDepth with
    | none => exact .inl ⟨rfl, rfl⟩
    | some n => exact .inr ⟨n, rfl, hdepth n hvalue, rfl⟩

/-- Options that were built are in order, and each was taken from the first place that has it. They
are built again from their own values in every environment that can be read. -/
theorem build_settled {environment : List (String × String)} {options : List (String × Json)}
    {o : Options} (h : build environment options = .ok o) :
    (o.ignores ≠ [] ∧ ∀ n ∈ o.maxDepth, 1 ≤ n) ∧ Sourced environment options o ∧
      ∀ other, Readable other → build other o.explicit = .ok o := by
  obtain ⟨-, hsourced⟩ := build_eq_ok_iff.mp h
  have hignores : o.ignores ≠ [] :=
    hsourced.ignores.holds (fun _ _ => ReadsIgnores.ne_nil) (by decide)
  have hdepth : ∀ n ∈ o.maxDepth, 1 ≤ n :=
    hsourced.maxDepth.holds (fun _ _ => ReadsMaxDepth.one_le) nofun
  refine ⟨⟨hignores, hdepth⟩, hsourced, fun other hother => ?_⟩
  exact build_eq_ok_iff.mpr ⟨hother, sourced_explicit hignores hdepth other⟩

theorem build_settled_of_mixed_sources :
    let environment :=
      [("MDPROSE_IGNORES", "[]"), ("MDPROSE_CASCADE", "Off"), ("mdprose_max_depth", " 3 ")]
    let o : Options := ⟨defaultIgnores, false, some 2⟩
    build environment [("max_depth", .int 2)] = .ok o ∧
      build [("MDPROSE_IGNORES", "null"), ("MDPROSE_CASCADE", "perhaps")] o.explicit = .ok o := by
  intro environment o
  have hbuild : build environment [("max_depth", .int 2)] = .ok o := by with_unfolding_all rfl
  refine ⟨hbuild, (build_settled hbuild).2.2 _ ?_⟩
  rintro s ⟨⟩
  decide

end RichMarkdown.Options
