import RichMarkdown.Proofs.Process.Run
import RichMarkdown.Proofs.Registry.Lookup

/-! Conversions see no more of a process than its options, its definitions, its depth, and what
lookups in its registry answer. Started from two processes that agree in these, a conversion ends
alike and leaves them in agreement. -/
namespace RichMarkdown

/-- A relation under which lookups answer alike, kept by lookups and removals. -/
structure Registry.Bisimulation (R : Registry → Registry → Prop) : Prop where
  find {r s : Registry} (h : R r s) (type : String) :
    (r.find type).1 = (s.find type).1 ∧ R (r.find type).2 (s.find type).2
  remove {r s : Registry} (h : R r s) (name : String) : R (r.remove name) (s.remove name)

structure Registry.SameRules (r s : Registry) : Prop where
  left : r.Coherent
  right : s.Coherent
  rules : r.rules = s.rules

theorem Registry.sameRules_bisimulation : Registry.Bisimulation Registry.SameRules where
  find h type := by
    refine ⟨?_, h.left.find type, h.right.find type, ?_⟩
    · rw [h.left.find_eq, h.right.find_eq, h.rules]
    · rw [Registry.find_rules, Registry.find_rules, h.rules]
  remove h name :=
    ⟨h.left.remove name, h.right.remove name, by
      rw [Registry.remove_rules, Registry.remove_rules, h.rules]⟩

structure Process.Related (R : Registry → Registry → Prop) (p q : Process) : Prop where
  options : p.options = q.options
  registry : R p.registry q.registry
  sources : p.sources = q.sources
  depth : p.depth = q.depth

namespace ConvertM

variable {α β γ : Type} {R : Registry → Registry → Prop}

/-- A step that ends alike from processes in agreement, and leaves them in agreement. -/
def Respects (R : Registry → Registry → Prop) (x : ConvertM α) : Prop :=
  ∀ p q, Process.Related R p q → (x p).1 = (x q).1 ∧ Process.Related R (x p).2 (x q).2

theorem Respects.pure (a : α) : Respects R (pure a) := fun _ _ h => ⟨rfl, h⟩

theorem Respects.throw (e : ConvertError) : Respects R (throw e : ConvertM α) :=
  fun _ _ h => ⟨rfl, h⟩

theorem Respects.bind {x : ConvertM α} {f : α → ConvertM β} (hx : Respects R x)
    (hf : ∀ a, Respects R (f a)) : Respects R (x >>= f) := by
  intro p q h
  obtain ⟨hresult, hstate⟩ := hx p q h
  rw [run_bind, run_bind]
  revert hresult hstate
  rcases x p with ⟨result, p'⟩
  rcases x q with ⟨result', q'⟩
  rintro rfl hstate
  cases result with
  | ok a => exact hf a p' q' hstate
  | error e => exact ⟨rfl, hstate⟩

theorem Respects.read (view : Process → γ) {f : γ → ConvertM β}
    (hview : ∀ p q, Process.Related R p q → view p = view q) (hf : ∀ c, Respects R (f c)) :
    Respects R (do f (view (← get))) := by
  intro p q h
  simp only [run_bind, run_get, hview p q h]
  exact hf (view q) p q h

theorem Respects.modify {f : Process → Process}
    (hf : ∀ p q, Process.Related R p q → Process.Related R (f p) (f q)) :
    Respects R (modify f : ConvertM PUnit) := fun p q h => ⟨rfl, hf p q h⟩

theorem Respects.log (message : String) : Respects R (ConvertM.log message) :=
  Respects.modify fun _ _ h => ⟨h.options, h.registry, h.sources, h.depth⟩

theorem Respects.outcome {x : ConvertM α} (hx : Respects R x) : Respects R x.outcome := by
  intro p q h
  obtain ⟨hresult, hstate⟩ := hx p q h
  exact ⟨congrArg Except.ok hresult, hstate⟩

theorem Respects.nested {x : ConvertM α} (hx : Respects R x) : Respects R x.nested := by
  intro p q h
  have hdeeper : Process.Related R { p with depth := p.depth + 1 }
      { q with depth := q.depth + 1 } :=
    ⟨h.options, h.registry, h.sources, congrArg (· + 1) h.depth⟩
  obtain ⟨hresult, hstate⟩ := hx _ _ hdeeper
  exact ⟨hresult, hstate.options, hstate.registry, hstate.sources, congrArg (· - 1) hstate.depth⟩

theorem Respects.findRule (hR : Registry.Bisimulation R) (type : String) :
    Respects R (ConvertM.findRule type) := by
  intro p q h
  obtain ⟨hfound, hregistry⟩ := hR.find h.registry type
  exact ⟨hfound, h.options, hregistry, h.sources, h.depth⟩

theorem Respects.sequence {steps : List (ConvertM α)} (h : ∀ step ∈ steps, Respects R step) :
    Respects R (ConvertM.sequence steps) := by
  induction steps with
  | nil => exact Respects.pure []
  | cons step rest ih =>
    refine Respects.bind (h step (by simp)) fun a => ?_
    exact Respects.bind (ih fun s hs => h s (by simp [hs])) fun as => Respects.pure _

end ConvertM

open ConvertM

variable {R : Registry → Registry → Prop}

structure Further.Respects (R : Registry → Registry → Prop) (further : Further) : Prop where
  convert (node : Source.Node) : ConvertM.Respects R (further.convert node)
  transform (tree : Source.Node) : ConvertM.Respects R (further.transform tree)

theorem checkDepth_respects : Respects R checkDepth := by
  intro p q h
  have hexceeded : p.exceeded = q.exceeded := by
    rw [Process.exceeded, Process.exceeded, h.options, h.depth]
  rw [checkDepth_run, checkDepth_run, hexceeded]
  cases q.exceeded <;> exact ⟨rfl, h⟩

theorem Script.run_respects (hR : Registry.Bisimulation R) {further : Further}
    (hfurther : further.Respects R) {children : List (ConvertM DocNode)}
    (hchildren : ∀ step ∈ children, Respects R step) (script : Script) :
    Respects R (script.run further children) := by
  induction script with
  | done d => exact Respects.pure d
  | fail e => exact Respects.throw e
  | readDepth next ih => exact Respects.read Process.depth (fun _ _ h => h.depth) ih
  | readSources next ih => exact Respects.read Process.sources (fun _ _ h => h.sources) ih
  | dropRule name next ih =>
    refine Respects.bind (Respects.modify fun p q h => ?_) fun _ => ih
    exact ⟨h.options, hR.remove h.registry name, h.sources, h.depth⟩
  | note message next ih => exact Respects.bind (Respects.log message) fun _ => ih
  | child n next ih =>
    unfold Script.run
    cases hn : children[n]? with
    | none => exact ih _
    | some step => exact Respects.bind (hchildren step (List.mem_of_getElem? hn)).outcome ih
  | convert node next ih => exact Respects.bind (hfurther.convert node).outcome ih
  | transform tree next ih => exact Respects.bind (hfurther.transform tree).outcome ih

theorem applyRule_respects (hR : Registry.Bisimulation R) {further : Further}
    (hfurther : further.Respects R) {children : List (ConvertM DocNode)}
    (hchildren : ∀ step ∈ children, Respects R step) (name : String) (rule : Rule)
    (node : Source.Node) : Respects R (applyRule further name rule node children) := by
  unfold applyRule
  split
  · exact Script.run_respects hR hfurther hchildren _
  · exact Respects.bind (Respects.log _) fun _ => Respects.pure _
  · next first rest _ _ => exact Respects.bind (hchildren first (by simp)) fun d => Respects.pure _
  · exact Respects.bind (Respects.sequence hchildren) fun content => Respects.pure _

theorem convertNode_respects (hR : Registry.Bisimulation R) {further : Further}
    (hfurther : further.Respects R) {children : List (ConvertM DocNode)}
    (hchildren : ∀ step ∈ children, Respects R step) (node : Source.Node) :
    Respects R (convertNode further node children) := by
  refine Respects.bind (Respects.findRule hR node.type) fun found => ?_
  cases found with
  | none => exact Respects.throw _
  | some found =>
    refine Respects.nested (Respects.bind checkDepth_respects fun _ => ?_)
    exact applyRule_respects hR hfurther hchildren found.1 found.2 node

mutual

theorem resolve_respects (hR : Registry.Bisimulation R) {further : Further}
    (hfurther : further.Respects R) (c : Source.Content) : Respects R (resolve further c) := by
  cases c with
  | leaf l => exact convertNode_respects hR hfurther (by simp) _
  | parent p cs => exact convertNode_respects hR hfurther (resolveAll_respects hR hfurther cs) _

theorem resolveAll_respects (hR : Registry.Bisimulation R) {further : Further}
    (hfurther : further.Respects R) (cs : List Source.Content) :
    ∀ step ∈ resolveAll further cs, Respects R step := by
  cases cs with
  | nil => simp [resolveAll]
  | cons c rest =>
    intro step hstep
    rcases List.mem_cons.mp hstep with rfl | hrest
    · exact resolve_respects hR hfurther c
    · exact resolveAll_respects hR hfurther rest step hrest

end

theorem resolveNode_respects (hR : Registry.Bisimulation R) {further : Further}
    (hfurther : further.Respects R) (node : Source.Node) :
    Respects R (resolveNode further node) := by
  cases node with
  | root cs => exact convertNode_respects hR hfurther (resolveAll_respects hR hfurther cs) _
  | content c => exact resolve_respects hR hfurther c

/-- A whole conversion sets the definitions and the depth itself, so that the two processes need
not agree in these beforehand. -/
theorem transformWith_agree {convert : Source.Node → ConvertM DocNode}
    (hconvert : ∀ node, Respects R (convert node)) (tree : Source.Node) {p q : Process}
    (hoptions : p.options = q.options) (hregistry : R p.registry q.registry) :
    (transformWith convert tree p).1 = (transformWith convert tree q).1 ∧
      Process.Related R (transformWith convert tree p).2 (transformWith convert tree q).2 := by
  rw [transformWith_run, transformWith_run]
  have hfiltered : p.filtered tree = q.filtered tree := by
    rw [Process.filtered, Process.filtered, hoptions]
  rw [hfiltered]
  exact hconvert _ _ _ ⟨hoptions, hregistry, rfl, rfl⟩

theorem convertWithin_respects (hR : Registry.Bisimulation R) (room : Nat)
    (node : Source.Node) : Respects R (convertWithin room node) := by
  induction room generalizing node with
  | zero => exact Respects.throw _
  | succ room ih =>
    have htransform : ∀ tree, Respects R (transformWith (convertWithin room) tree) :=
      fun tree _ _ h => transformWith_agree ih tree h.options h.registry
    exact resolveNode_respects hR ⟨ih, htransform⟩ node

theorem transformWithin_agree (hR : Registry.Bisimulation R) (room : Nat) (tree : Source.Node)
    {p q : Process} (hoptions : p.options = q.options) (hregistry : R p.registry q.registry) :
    (transformWithin room tree p).1 = (transformWithin room tree q).1 ∧
      Process.Related R (transformWithin room tree p).2 (transformWithin room tree q).2 :=
  transformWith_agree (convertWithin_respects hR room) tree hoptions hregistry

end RichMarkdown
