import RichMarkdown.Process.Session
import RichMarkdown.Proofs.Process.Simulation
import RichMarkdown.Proofs.Process.Reentry

/-! What happened on a process before a whole conversion has no influence on it. Definitions,
depth and index left over from earlier steps are set anew or cannot be seen. -/
namespace RichMarkdown

namespace ConvertM

variable {α β : Type} {R : Registry → Registry → Prop}

theorem Respects.map (f : α → β) {x : ConvertM α} (hx : Respects R x) : Respects R (f <$> x) := by
  rw [map_eq_pure_bind]
  exact hx.bind fun a => Respects.pure (f a)

theorem Respects.coherent {x : ConvertM α} (hx : Respects Registry.SameRules x) {p : Process}
    (hp : p.registry.Coherent) : (x p).2.registry.Coherent :=
  (hx p p ⟨rfl, ⟨hp, hp, rfl⟩, rfl, rfl⟩).2.registry.left

end ConvertM

open ConvertM

theorem readMarkdown_respects {R : Registry → Registry → Prop} (text : String) :
    Respects R (readMarkdown text) := by
  intro p q h
  unfold readMarkdown
  -- The syntax of markdown plays no part: both processes get the same tree and messages.
  generalize Markdown.parse text = parsed
  exact ⟨rfl, h.options, h.registry, h.sources, h.depth⟩

theorem transformWithin_respects {R : Registry → Registry → Prop} (hR : Registry.Bisimulation R)
    (room : Nat) (tree : Source.Node) : Respects R (transformWithin room tree) :=
  fun _ _ h => transformWithin_agree hR room tree h.options h.registry

namespace Session

structure Fresh (s : Session) : Prop where
  new : ∀ p ∈ s.processes, ∃ pairs, p = { options := p.options, registry := .ofPairs pairs }
  shared : s.shared = true → ∀ p ∈ s.processes, ∀ q ∈ s.processes, p.registry = q.registry

/-- The sessions that any run of steps on any of their processes leads to. Besides the steps of
processes themselves, a rule can be looked up, definitions and depth can be overwritten, and a
process can take over what another one made of the registry that they share. -/
inductive Reached : Session → Prop
  | start {s : Session} (fresh : s.Fresh) : Reached s
  | step {s s' : Session} {room n : Nat} {action : SessionStep} {o : Outcome} (before : Reached s)
      (h : s.stepWithin room n action = some (o, s')) : Reached s'
  | find {s : Session} {n : Nat} {p : Process} (before : Reached s)
      (h : s.processes[n]? = some p) (type : String) :
      Reached (s.putProcess n { p with registry := (p.registry.find type).2 })
  | edit {s : Session} {n : Nat} {p : Process} (before : Reached s) (h : s.processes[n]? = some p)
      (sources : Entries Source.Definition) (depth : Int) :
      Reached (s.putProcess n { p with sources, depth })
  | share {s : Session} {m n : Nat} {p q : Process} (before : Reached s)
      (hp : s.processes[m]? = some p) (hq : s.processes[n]? = some q) :
      Reached (s.putProcess m { p with registry := q.registry })

def Coherent (s : Session) : Prop :=
  ∀ p ∈ s.processes, p.registry.Coherent

theorem Fresh.coherent {s : Session} (h : s.Fresh) : s.Coherent := by
  intro p hp
  obtain ⟨pairs, heq⟩ := h.new p hp
  rw [heq]
  exact Registry.coherent_ofPairs pairs

theorem Coherent.of_getElem? {s : Session} (h : s.Coherent) {n : Nat} {p : Process}
    (hp : s.processes[n]? = some p) : p.registry.Coherent :=
  h p (List.mem_of_getElem? hp)

theorem Coherent.putProcess {s : Session} (h : s.Coherent) (n : Nat) {q : Process}
    (hq : q.registry.Coherent) : (s.putProcess n q).Coherent := by
  have hset : ∀ p ∈ s.processes.set n q, p.registry.Coherent := by
    intro p hp
    rcases List.mem_or_eq_of_mem_set hp with hold | rfl
    · exact h p hold
    · exact hq
  intro p hp
  unfold Session.putProcess at hp
  dsimp only at hp
  split at hp
  · obtain ⟨r, -, rfl⟩ := List.mem_map.mp hp
    exact hq
  · exact hset p hp

theorem performWithin_coherent (room : Nat) (s : Session) (action : SessionStep) {p : Process}
    (hp : p.registry.Coherent) : (s.performWithin room action p).1.2.registry.Coherent := by
  have hfind : ∀ name, Respects Registry.SameRules (s.findTree name) := by
    intro name
    unfold findTree
    split
    · exact Respects.pure _
    · exact Respects.throw _
  cases action <;> dsimp only [performWithin]
  case parse text =>
    have hparse : Respects Registry.SameRules (parseWithin room text) :=
      (readMarkdown_respects text).bind
        (transformWithin_respects Registry.sameRules_bisimulation room)
    exact (hparse.map Answer.document).coherent hp
  case load name source =>
    cases source with
    | markdown text =>
      have hafter := (readMarkdown_respects text).coherent hp
      dsimp only
      revert hafter
      rcases readMarkdown text p with ⟨result, q⟩
      cases result <;> exact id
    | json j => dsimp only; cases (Source.Node.read j).mapError ConvertError.invalid <;> exact hp
  case transform name =>
    have htransform : Respects Registry.SameRules
        (do return .document (← transformWithin room (← s.findTree name)) : ConvertM Answer) :=
      (hfind name).bind fun tree =>
        (transformWithin_respects Registry.sameRules_bisimulation room tree).bind fun d =>
          Respects.pure _
    exact htransform.coherent hp
  case resolve name =>
    have hresolve : Respects Registry.SameRules
        (do return .resolved (← convertWithin room (← s.findTree name)) : ConvertM Answer) :=
      (hfind name).bind fun tree =>
        (convertWithin_respects Registry.sameRules_bisimulation room tree).bind fun d =>
          Respects.pure _
    exact hresolve.coherent hp
  case addRule name rule => exact hp.add name rule
  case removeRule name => exact hp.remove name
  case setSource key definition => split <;> exact hp
  case ruleNames => exact hp
  case options => exact hp

theorem stepWithin_eq (room : Nat) (s : Session) {n : Nat} {p : Process}
    (hp : s.processes[n]? = some p) (action : SessionStep) :
    s.stepWithin room n action =
      let performed := s.performWithin room action { p with log := [] }
      some ({ answer := performed.1.1
              process := performed.1.2
              tree := (treeName? action).bind performed.2.get? },
        { s with trees := performed.2 }.putProcess n performed.1.2) := by
  rw [stepWithin, hp]
  rfl

theorem Coherent.stepWithin {s s' : Session} (h : s.Coherent) {room n : Nat}
    {action : SessionStep} {o : Outcome} (hstep : s.stepWithin room n action = some (o, s')) :
    s'.Coherent := by
  obtain ⟨p, hp, -⟩ := Option.bind_eq_some_iff.mp hstep
  rw [stepWithin_eq room s hp] at hstep
  have hregistry : p.registry.Coherent := h.of_getElem? hp
  have hperformed := performWithin_coherent room s action (p := { p with log := [] }) hregistry
  cases Option.some.inj hstep
  exact Coherent.putProcess h n hperformed

theorem Reached.coherent {s : Session} (h : s.Reached) : s.Coherent := by
  induction h with
  | start fresh => exact fresh.coherent
  | step before h ih => exact ih.stepWithin h
  | find before h type ih => exact ih.putProcess _ ((ih.of_getElem? h).find type)
  | edit before h sources depth ih =>
    have hregistry := ih.of_getElem? h
    exact ih.putProcess _ hregistry
  | share before hp hq ih =>
    have hregistry := ih.of_getElem? hq
    exact ih.putProcess _ hregistry

theorem performWithin_transform (room : Nat) (s : Session) (p : Process) {name : String}
    {tree : Source.Node} (htree : s.trees.get? name = some tree) :
    s.performWithin room (.transform name) p =
      (((transformWithin room tree p).1.map .document, (transformWithin room tree p).2),
        s.trees.put name (p.filtered tree)) := by
  have hread : s.findTree name = pure tree := by rw [findTree, htree]
  rw [performWithin, hread, htree, pure_bind]
  exact Prod.ext (Prod.ext (run_map_result _ _ _) (run_map_state _ _ _)) rfl

theorem stepWithin_transform (room : Nat) (s : Session) {n : Nat} {p : Process}
    (hp : s.processes[n]? = some p) {name : String} {tree : Source.Node}
    (htree : s.trees.get? name = some tree) :
    s.stepWithin room n (.transform name) =
      some ({ answer := (transformWithin room tree { p with log := [] }).1.map .document
              process := (transformWithin room tree { p with log := [] }).2
              tree := some (p.filtered tree) },
        { s with trees := s.trees.put name (p.filtered tree) }.putProcess n
          (transformWithin room tree { p with log := [] }).2) := by
  have hfiltered : ({ p with log := [] } : Process).filtered tree = p.filtered tree := rfl
  rw [stepWithin_eq room s hp, performWithin_transform room s _ htree, hfiltered]
  simp only [treeName?, Option.bind_some, Entries.get?_put, if_true]

theorem step_transform (s : Session) {n : Nat} {p : Process} (hp : s.processes[n]? = some p)
    {name : String} {tree : Source.Node} (htree : s.trees.get? name = some tree) :
    s.step n (.transform name) =
      some ({ answer := (transform tree { p with log := [] }).1.map .document
              process := (transform tree { p with log := [] }).2
              tree := some (p.filtered tree) },
        { s with trees := s.trees.put name (p.filtered tree) }.putProcess n
          (transform tree { p with log := [] }).2) :=
  stepWithin_transform furtherLimit s hp htree

/-- Two processes with equal options and the same rules in the same order, reached in whatever
ways, convert a tree alike: to the same document or with the same error, leaving the same tree,
definitions, depth and rules. If no custom conversion starts another whole conversion, the
definitions left are those of the tree as it was given. -/
theorem transform_forgets_history {s t : Session} (hs : s.Reached) (ht : t.Reached) {m n : Nat}
    {p q : Process} (hp : s.processes[m]? = some p) (hq : t.processes[n]? = some q)
    (hoptions : p.options = q.options) (hrules : p.registry.rules = q.registry.rules)
    {a b : String} {tree : Source.Node} (ha : s.trees.get? a = some tree)
    (hb : t.trees.get? b = some tree) (room : Nat) :
    ∃ o o' s' t', s.stepWithin room m (.transform a) = some (o, s') ∧
      t.stepWithin room n (.transform b) = some (o', t') ∧
      o.answer = o'.answer ∧ o.tree = o'.tree ∧ o.tree = some (p.filtered tree) ∧
      o.process.sources = o'.process.sources ∧ o.process.depth = o'.process.depth ∧
      o.process.registry.rules = o'.process.registry.rules ∧
      (reentries room tree { p with log := [] } = [] → o.process.sources = tree.references) := by
  have hregistry : Registry.SameRules p.registry q.registry :=
    ⟨hs.coherent.of_getElem? hp, ht.coherent.of_getElem? hq, hrules⟩
  obtain ⟨hresult, hstate⟩ := transformWithin_agree Registry.sameRules_bisimulation room tree
    (p := { p with log := [] }) (q := { q with log := [] }) hoptions hregistry
  have hfiltered : p.filtered tree = q.filtered tree := by
    rw [Process.filtered, Process.filtered, hoptions]
  refine ⟨_, _, _, _, s.stepWithin_transform room hp ha, t.stepWithin_transform room hq hb, ?_, ?_,
    rfl, hstate.sources, hstate.depth, hstate.registry.rules, ?_⟩
  · exact congrArg (Except.map Answer.document) hresult
  · exact congrArg some hfiltered
  · exact fun hnone => (transformWithin_steady hnone).sources

def restless : Process :=
  { options := .default
    registry := .ofPairs [("doc", Registry.nodeRule "root"),
      ("again", Registry.nodeRule "paragraph" (some fun _ => .transform (.root []) .finish))] }

def restlessUsed : Process :=
  { restless with
    registry := (restless.registry.find "root").2
    sources := [("y", ⟨"y", none, "v", none⟩)]
    depth := -2 }

def flatTree : Source.Node :=
  .root [.leaf (.definition ⟨"x", none, "u", none⟩)]

def restlessSession (p : Process) : Session :=
  { processes := [p]
    shared := false
    trees := [("deep", .root [.parent .paragraph []]), ("flat", flatTree)] }

theorem restless_reached : (restlessSession restless).Reached := by
  refine .start ⟨fun p hp => ?_, fun h => absurd h (by decide)⟩
  cases List.mem_singleton.mp hp
  exact ⟨_, rfl⟩

theorem restlessUsed_reached : (restlessSession restlessUsed).Reached :=
  (restless_reached.find (n := 0) rfl "root").edit (n := 0) rfl restlessUsed.sources (-2)

theorem restless_forgets_history :
    (∃ o o' s' t', (restlessSession restless).step 0 (.transform "deep") = some (o, s') ∧
      (restlessSession restlessUsed).step 0 (.transform "deep") = some (o', t') ∧
      o.answer = o'.answer ∧ o.process.sources = o'.process.sources ∧
      o.process.depth = o'.process.depth) ∧
    reentries furtherLimit flatTree { restlessUsed with log := [] } = [] ∧
    ∃ o s', (restlessSession restlessUsed).step 0 (.transform "flat") = some (o, s') ∧
      o.process.sources = flatTree.references := by
  have hquiet : reentries furtherLimit flatTree { restlessUsed with log := [] } = [] := by
    decide +kernel
  obtain ⟨o, o', s', t', hs, ht, hanswer, -, -, hsources, hdepth, -⟩ :=
    transform_forgets_history restless_reached restlessUsed_reached (m := 0) (n := 0) rfl rfl rfl
      (Registry.find_rules _ _).symm (a := "deep") (b := "deep") rfl rfl furtherLimit
  obtain ⟨flat, -, flat', -, hflat, -, -, -, -, -, -, -, hreferences⟩ :=
    transform_forgets_history restlessUsed_reached restless_reached (m := 0) (n := 0) rfl rfl rfl
      (Registry.find_rules _ _) (a := "flat") (b := "flat") rfl rfl furtherLimit
  exact ⟨⟨o, o', s', t', hs, ht, hanswer, hsources, hdepth⟩, hquiet, flat, flat', hflat,
    hreferences hquiet⟩

end Session

end RichMarkdown
