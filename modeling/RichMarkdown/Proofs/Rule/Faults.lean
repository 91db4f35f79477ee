import RichMarkdown.Proofs.Rule.Visits

/-! How conversions with standard rules end. They fail at the first node on their way that has no
rule or lies too deep, and where no node does, the limit on the depth does not show. -/
namespace RichMarkdown

open Source (Content)
open Registry (firstClaim goesOn)

namespace ConvertError

def raised? {α : Type} : Except ConvertError α → Option ConvertError
  | .error e => some e
  | .ok _ => none

theorem raised?_eq_some_iff {α : Type} {x : Except ConvertError α} {e : ConvertError} :
    raised? x = some e ↔ x = .error e := by
  cases x <;> simp [raised?]

theorem raised?_eq_none_iff {α : Type} {x : Except ConvertError α} :
    raised? x = none ↔ ∃ a, x = .ok a := by
  cases x <;> simp [raised?]

theorem raised?_isSome_iff {α : Type} {x : Except ConvertError α} :
    (raised? x).isSome ↔ ∃ e, x = .error e := by
  cases x <;> simp [raised?]

theorem raised?_map {α β : Type} (f : α → β) (x : Except ConvertError α) :
    raised? (x.map f) = raised? x := by
  cases x <;> rfl

end ConvertError

open ConvertError (raised?)

theorem Result.raised?_mapM_id (results : List Result) :
    raised? (results.mapM id) = results.findSome? raised? := by
  induction results with
  | nil => rfl
  | cons result rest ih =>
    rw [List.mapM_cons, List.findSome?_cons, ← ih]
    cases result with
    | error e => rfl
    | ok d => cases rest.mapM id <;> rfl

theorem Form.raised?_result (form : Form) (results : List Result) :
    raised? (form.result results) = (form.reached results).findSome? raised? := by
  cases form with
  | block make => rw [result, ConvertError.raised?_map, Result.raised?_mapM_id, reached]
  | mark m =>
    cases results with
    | nil => rfl
    | cons first rest => cases first <;> rfl

namespace Visit

def Unclaimed (rules : List (String × Rule)) (v : Visit) : Prop :=
  firstClaim v.node.type rules = none

def TooDeep (limit : Option Int) (v : Visit) : Prop :=
  ∃ n, limit = some n ∧ n < v.level

instance (rules : List (String × Rule)) (v : Visit) : Decidable (v.Unclaimed rules) :=
  decidable_of_iff ((firstClaim v.node.type rules).isNone = true) Option.isNone_iff_eq_none

instance (limit : Option Int) (v : Visit) : Decidable (v.TooDeep limit) :=
  decidable_of_iff (∃ n ∈ limit, n < v.level) Iff.rfl

/-- The error of a visited node for its own sake. The missing rule comes first. -/
def fault? (rules : List (String × Rule)) (limit : Option Int) (v : Visit) : Option ConvertError :=
  match firstClaim v.node.type rules with
  | none => some (.unmapped v.node.type v.node.dump)
  | some _ => (limit.filter fun n => n < v.level).map fun n => .tooDeep n

variable {rules : List (String × Rule)} {limit : Option Int} {v : Visit}

theorem fault?_of_unclaimed (h : v.Unclaimed rules) :
    v.fault? rules limit = some (.unmapped v.node.type v.node.dump) := by
  unfold fault?
  rw [h]

theorem fault?_of_tooDeep (h : ¬v.Unclaimed rules) {n : Int} (hlimit : limit = some n)
    (hdeep : n < v.level) : v.fault? rules limit = some (.tooDeep n) := by
  unfold fault?
  split
  · next hnone => exact absurd hnone h
  · rw [hlimit]
    simp [Option.filter, hdeep]

theorem fault?_isSome_iff :
    (v.fault? rules limit).isSome ↔ v.Unclaimed rules ∨ v.TooDeep limit := by
  unfold fault? Unclaimed TooDeep
  cases firstClaim v.node.type rules with
  | none => simp
  | some found => cases limit <;> simp [Option.filter]

theorem fault?_eq_none_iff :
    v.fault? rules limit = none ↔ ¬v.Unclaimed rules ∧ ¬v.TooDeep limit := by
  rw [← Option.not_isSome_iff_eq_none, fault?_isSome_iff, not_or]

end Visit

theorem findSome?_flatMap_of {α β γ : Type} {l : List α} {f : α → List β} {g : β → Option γ}
    {h : α → Option γ} (hfg : ∀ a ∈ l, h a = (f a).findSome? g) :
    l.findSome? h = (l.flatMap f).findSome? g := by
  induction l with
  | nil => rfl
  | cons a rest ih =>
    rw [List.findSome?_cons, List.flatMap_cons, List.findSome?_append, hfg a List.mem_cons_self,
      ih fun b hb => hfg b (List.mem_cons_of_mem a hb)]
    cases (f a).findSome? g <;> rfl

/-- The value of a tree is the error of the first visited node that has one, or a document. -/
theorem treeValue_raised {s : Setting} (hstandard : s.Standard) (depth : Int)
    (node : Source.Node) : raised? (treeValue s depth node) =
      (node.visits s.rules (depth + 1)).findSome? (Visit.fault? s.rules s.limit) := by
  induction node using Source.Node.induction generalizing depth with
  | step node ih =>
    rw [treeValue_form hstandard, Source.Node.visits_eq, List.findSome?_cons, Visit.fault?]
    cases hfirst : firstClaim node.type s.rules with
    | none => rfl
    | some found =>
      obtain ⟨name, rule⟩ := found
      have hrule := hstandard _ (List.mem_of_find?_eq_some hfirst)
      have hclaims := ((Registry.firstClaim_eq_some_iff node.type s.rules _).mp hfirst).1
      have hreached : (rule.form s.sources name node).reached node.children =
          goesOn s.rules node.type node.children := by
        rw [Rule.reached_form hrule hclaims, goesOn, hfirst]
      dsimp only
      rw [Setting.within, Setting.exceeded]
      cases s.limit.filter fun n => n < depth + 1 with
      | some n => rfl
      | none =>
        dsimp only [Option.map_none]
        rw [Form.raised?_result, ← Form.map_reached, hreached, List.findSome?_map]
        refine findSome?_flatMap_of fun c hc => ?_
        exact ih c ((Registry.goesOn_sublist s.rules node.type node.children).subset hc) (depth + 1)

namespace Process

def limited (p : Process) (limit : Option Int) : Process :=
  { p with options := { p.options with maxDepth := limit } }

end Process

theorem transform_raised {p : Process} (hstandard : p.registry.IsStandard) (tree : Source.Node) :
    raised? (transform tree p).1 = ((p.filtered tree).visits p.registry.rules 1).findSome?
      (Visit.fault? p.registry.rules p.options.maxDepth) := by
  have hsetting : (p.setting tree).Standard := hstandard.rules
  rw [transform_eq_value hstandard.coherent hsetting.plain]
  exact treeValue_raised hsetting 0 (p.filtered tree)

theorem transform_limited {p : Process} (hstandard : p.registry.IsStandard) {tree : Source.Node}
    {limit : Option Int}
    (hroom : ∀ n, limit = some n → ∃ m, p.options.maxDepth = some m ∧ m ≤ n) {d : DocNode}
    (hd : (transform tree p).1 = .ok d) : (transform tree (p.limited limit)).1 = .ok d := by
  have hsetting : (p.setting tree).Standard := hstandard.rules
  have hsetting' : ((p.limited limit).setting tree).Standard := hstandard.rules
  have hcoherent : (p.limited limit).registry.Coherent := hstandard.coherent
  rw [transform_eq_value hstandard.coherent hsetting.plain] at hd
  rw [transform_eq_value hcoherent hsetting'.plain]
  have hroom' : ∀ n, limit = some n →
      ∃ m, (p.setting tree).limit = some m ∧ m - 0 ≤ n - 0 := by
    intro n hn
    obtain ⟨m, hm, hle⟩ := hroom n hn
    exact ⟨m, hm, by omega⟩
  exact treeValue_of_room (t := (p.limited limit).setting tree) hsetting rfl rfl hroom' hd

/-- How a conversion with standard rules ends. It fails if and only if a visited node has no rule or
lies too deep, with the error of the first such node in the order of the tree; a missing rule comes
before the depth. Otherwise it gives the document that it gives without a limit, and so it does
under any higher one. -/
theorem transform_first_fault (p : Process) (tree : Source.Node)
    (hstandard : p.registry.IsStandard) :
    let rules := p.registry.rules
    let limit := p.options.maxDepth
    let visits := (p.filtered tree).visits rules 1
    (∀ v, v ∈ visits ↔ Visited rules (p.filtered tree) v) ∧
    (visits.map Visit.node).Sublist (p.filtered tree).walk ∧
    ((∃ e, (transform tree p).1 = .error e) ↔
      ∃ v, Visited rules (p.filtered tree) v ∧ (v.Unclaimed rules ∨ v.TooDeep limit)) ∧
    (∀ before v after, visits = before ++ v :: after →
      (∀ u ∈ before, ¬u.Unclaimed rules ∧ ¬u.TooDeep limit) →
      (v.Unclaimed rules →
        (transform tree p).1 = .error (.unmapped v.node.type v.node.dump)) ∧
      (¬v.Unclaimed rules → ∀ n, limit = some n → n < v.level →
        (transform tree p).1 = .error (.tooDeep n))) ∧
    ((∀ v, Visited rules (p.filtered tree) v → ¬v.Unclaimed rules ∧ ¬v.TooDeep limit) →
      ∃ d, (transform tree p).1 = .ok d ∧ (transform tree (p.limited none)).1 = .ok d) ∧
    ∀ (higher : Option Int) (d : DocNode),
      (∀ n, higher = some n → ∃ m, limit = some m ∧ m ≤ n) →
      (transform tree p).1 = .ok d → (transform tree (p.limited higher)).1 = .ok d := by
  intro rules limit visits
  have hraised := transform_raised hstandard tree
  have hvisited : ∀ v, v ∈ visits ↔ Visited rules (p.filtered tree) v := fun v => mem_visits_iff
  have hfirst : ∀ before v after e, visits = before ++ v :: after →
      (∀ u ∈ before, ¬u.Unclaimed rules ∧ ¬u.TooDeep limit) → v.fault? rules limit = some e →
      (transform tree p).1 = .error e := by
    intro before v after e hsplit hbefore hfault
    rw [← ConvertError.raised?_eq_some_iff, hraised, List.findSome?_eq_some_iff]
    exact ⟨before, v, after, hsplit, hfault,
      fun u hu => Visit.fault?_eq_none_iff.mpr (hbefore u hu)⟩
  have hfine : (∀ v ∈ visits, ¬v.Unclaimed rules ∧ ¬v.TooDeep limit) ↔
      ∃ d, (transform tree p).1 = .ok d := by
    rw [← ConvertError.raised?_eq_none_iff, hraised, List.findSome?_eq_none_iff]
    exact forall₂_congr fun v _ => Visit.fault?_eq_none_iff.symm
  refine ⟨hvisited, ?_, ?_, ?_, ?_, ?_⟩
  · rw [Source.Node.walk_eq_nodes]
    exact Source.Node.visits_sublist_nodes 1 _
  · rw [← ConvertError.raised?_isSome_iff, hraised, List.findSome?_isSome_iff]
    exact exists_congr fun v => and_congr (hvisited v) Visit.fault?_isSome_iff
  · intro before v after hsplit hbefore
    refine ⟨fun hnone => ?_, fun hsome n hlimit hdeep => ?_⟩
    · exact hfirst before v after _ hsplit hbefore (Visit.fault?_of_unclaimed hnone)
    · exact hfirst before v after _ hsplit hbefore (Visit.fault?_of_tooDeep hsome hlimit hdeep)
  · intro hnone
    obtain ⟨d, hd⟩ := hfine.mp fun v hv => hnone v ((hvisited v).mp hv)
    exact ⟨d, hd, transform_limited hstandard (fun n hn => absurd hn (by simp)) hd⟩
  · exact fun higher d hroom hd => transform_limited hstandard hroom hd

def quoting : Process :=
  { options := ⟨Options.defaultIgnores, true, some 3⟩
    registry := .ofPairs [("doc", Registry.nodeRule "root"),
      ("block", Registry.nodeRule "paragraph"), ("quote", Registry.markRule "blockquote"),
      ("link", Registry.markRule "link" (some Conversion.link)),
      ("text", Registry.nodeRule "text" (some Conversion.text))] }

theorem quoting_isStandard : quoting.registry.IsStandard := by
  have hlink : ("link", Registry.markRule "link" (some Conversion.link)) ∈
      Registry.defaultRules := by
    simp [Registry.defaultRules]
  have htext : ("text", Registry.nodeRule "text" (some Conversion.text)) ∈
      Registry.defaultRules := by
    simp [Registry.defaultRules]
  refine Registry.isStandard_ofPairs ?_
  simp only [List.forall_mem_cons, List.not_mem_nil, false_implies, implies_true, and_true]
  exact ⟨.inl rfl, .inl rfl, .inl rfl, .inr ⟨_, hlink, rfl⟩, .inr ⟨_, htext, rfl⟩⟩

def quote : Content :=
  .parent .blockquote [.parent (.link "u" none) [.text "x", .leaf .hardBreak]]

theorem quote_first_fault :
    quoting.registry.IsStandard ∧
    (transform (.root [quote, .parent .paragraph [.leaf .hardBreak]]) quoting).1 =
      .error (.tooDeep 3) ∧
    (transform (.root [quote, .parent .paragraph [.leaf .hardBreak]]) (quoting.limited none)).1 =
      .error (.unmapped "break" (Source.Node.content (.leaf .hardBreak)).dump) ∧
    ∃ d, (transform (.root [.parent .blockquote [.text "x"]]) quoting).1 = .ok d ∧
      (transform (.root [.parent .blockquote [.text "x"]]) (quoting.limited none)).1 = .ok d := by
  let tree : Source.Node := .root [quote, .parent .paragraph [.leaf .hardBreak]]
  let visits := tree.visits quoting.registry.rules 1
  have hlimited : (quoting.limited none).registry.IsStandard := quoting_isStandard
  obtain ⟨-, -, -, hdeep, -⟩ := transform_first_fault quoting tree quoting_isStandard
  obtain ⟨-, -, -, hunmapped, -⟩ := transform_first_fault (quoting.limited none) tree hlimited
  obtain ⟨hvisits, -, -, -, hfine, -⟩ := transform_first_fault quoting
    (.root [.parent .blockquote [.text "x"]]) quoting_isStandard
  have hdeepest := hdeep (visits.take 3) ⟨4, .content (.text "x")⟩ (visits.drop 4) rfl (by decide)
  have hbreak := hunmapped (visits.take 5) ⟨3, .content (.leaf .hardBreak)⟩ [] rfl (by decide)
  have hnone : ∀ v ∈ (Source.Node.root [.parent .blockquote [.text "x"]]).visits
      quoting.registry.rules 1,
      ¬v.Unclaimed quoting.registry.rules ∧ ¬v.TooDeep quoting.options.maxDepth := by
    decide
  refine ⟨quoting_isStandard, ?_, hbreak.1 rfl, hfine fun v hv => ?_⟩
  · exact hdeepest.2 (by decide) 3 rfl (by decide)
  · exact hnone v ((hvisits v).mpr hv)

end RichMarkdown
