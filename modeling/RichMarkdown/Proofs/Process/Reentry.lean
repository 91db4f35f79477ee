import RichMarkdown.Proofs.Process.Script
import RichMarkdown.Proofs.Source.Nodes

/-! Which whole conversions a run of conversions starts on its own process, and how laws of such
records are proved. A run that starts none leaves the definitions and the depth of the process as
they were. -/
namespace RichMarkdown

/-- A whole conversion that a custom conversion starts on its own process. -/
structure Reentry where
  /-- The level of the node at hand. The node that the record begins with is at level 1. -/
  level : Nat
  depth : Int
  deriving DecidableEq

abbrev Trail := Process → List Reentry

def Trail.below (trail : Trail) : Trail := fun p =>
  (trail p).map fun r => { r with level := r.level + 1 }

abbrev Traced := ConvertM DocNode × Trail

variable (further : Further) (trails : Source.Node → Trail)

def Script.trail (children : List Traced) : Script → Trail
  | done _, _ => []
  | fail _, _ => []
  | readDepth next, p => trail children (next p.depth) p
  | readSources next, p => trail children (next p.sources) p
  | dropRule name next, p =>
    trail children next { p with registry := p.registry.remove name }
  | note message next, p => trail children next { p with log := p.log ++ [message] }
  | child n next, p =>
    match children[n]? with
    | some (step, below) => below.below p ++ trail children (next (step p).1) (step p).2
    | none => trail children (next (.error .noSuchChild)) p
  | convert node next, p =>
    (trails node).below p ++
      trail children (next (further.convert node p).1) (further.convert node p).2
  | transform tree next, p =>
    ⟨1, (further.transform tree p).2.depth⟩ ::
      trail children (next (further.transform tree p).1) (further.transform tree p).2

def sequenceTrail : List Traced → Trail
  | [], _ => []
  | (step, trail) :: rest, p => trail.below p ++
    match step p with
    | (.ok _, q) => sequenceTrail rest q
    | (.error _, _) => []

def ruleTrail (rule : Rule) (node : Source.Node) (children : List Traced) : Trail :=
  match rule.convert, rule.kind, children with
  | some script, _, _ => (script node).trail further trails children
  | none, .mark, [] => fun _ => []
  | none, .mark, (_, trail) :: _ => trail.below
  | none, _, _ => sequenceTrail children

def nodeTrail (node : Source.Node) (children : List Traced) : Trail := fun p =>
  match (p.registry.find node.type).1, (p.entered node.type).exceeded with
  | .ok (some (_, rule)), none => ruleTrail further trails rule node children (p.entered node.type)
  | _, _ => []

mutual

def contentTrail : Source.Content → Trail
  | .leaf l => nodeTrail further trails (.content (.leaf l)) []
  | .parent p cs => nodeTrail further trails (.content (.parent p cs)) (childTrails cs)

def childTrails : List Source.Content → List Traced
  | [] => []
  | c :: rest => (resolve further c, contentTrail c) :: childTrails rest

end

def resolveTrail : Source.Node → Trail
  | .root cs => nodeTrail further trails (.root cs) (childTrails further trails cs)
  | .content c => contentTrail further trails c

def trailWithin : (room : Nat) → Source.Node → Trail
  | 0, _ => fun _ => []
  | room + 1, node =>
    resolveTrail ⟨convertWithin room, transformWith (convertWithin room)⟩ (trailWithin room) node

/-- The whole conversions that custom conversions start while a process converts a tree. -/
def reentries (room : Nat) (tree : Source.Node) : Trail := fun p =>
  trailWithin room (p.filtered tree) (p.prepared tree)

variable {further : Further} {trails : Source.Node → Trail}

namespace Script

variable {children : List Traced}

theorem trail_child {n : Nat} {t : Traced} (h : children[n]? = some t) (next : DocNode → Script)
    (p : Process) : (child n (bindResult next)).trail further trails children p =
      t.2.below p ++ match t.1 p with
        | (.ok d, q) => (next d).trail further trails children q
        | (.error _, _) => [] := by
  rw [trail, h]
  dsimp only
  rcases t.1 p with ⟨result, q⟩
  cases result <;> rfl

theorem trail_eachChild (before rest : List Traced) {next : List DocNode → Script}
    (hnext : ∀ ds p, (next ds).trail further trails (before ++ rest) p = []) (p : Process) :
    (eachChild before.length rest.length next).trail further trails (before ++ rest) p =
      sequenceTrail rest p := by
  induction rest generalizing before next p with
  | nil => exact hnext [] p
  | cons t rest ih =>
    have hplace : (before ++ t :: rest)[before.length]? = some t := by simp
    rw [List.length_cons, eachChild, trail_child hplace, sequenceTrail]
    congr 1
    rcases t.1 p with ⟨result, q⟩
    cases result with
    | error e => rfl
    | ok d =>
      have hdone : ∀ ds p,
          (next (d :: ds)).trail further trails (before ++ [t] ++ rest) p = [] := by
        intro ds p
        rw [List.append_assoc]
        exact hnext (d :: ds) p
      have hrest := ih (before ++ [t]) hdone q
      rw [List.length_append, List.append_assoc] at hrest
      exact hrest

end Script

theorem ruleTrail_eq_trail (name : String) (rule : Rule) (node : Source.Node)
    {children : List Traced} (h : children.length = node.children.length) :
    ruleTrail further trails rule node children =
      (rule.script name node).trail further trails children := by
  have hall : ∀ make : List DocNode → DocNode, sequenceTrail children =
      (Script.children node fun content => .done (make content)).trail further trails children := by
    intro make
    funext p
    rw [Script.children, ← h]
    exact (Script.trail_eachChild [] children (fun _ _ => rfl) p).symm
  unfold ruleTrail Rule.script
  cases rule.convert with
  | some conversion => rfl
  | none =>
    cases rule.kind with
    | node => exact hall _
    | other kind => exact hall _
    | mark =>
      cases hcs : node.children with
      | nil =>
        rw [List.eq_nil_of_length_eq_zero (h.trans (congrArg List.length hcs))]
        rfl
      | cons c rest =>
        cases children with
        | nil => rw [hcs] at h; cases h
        | cons first others =>
          have hfirst : (first :: others)[0]? = some first := rfl
          funext p
          rw [Script.trail_child hfirst]
          dsimp only
          rcases first.1 p with ⟨result, q⟩
          cases result <;> exact (List.append_nil _).symm

theorem nodeTrail_of_found {node : Source.Node} {children : List Traced} {p : Process}
    {name : String} {rule : Rule} (h : children.length = node.children.length)
    (hfound : (p.registry.find node.type).1 = .ok (some (name, rule))) :
    nodeTrail further trails node children p =
      ((p.entered node.type).scriptFor name rule node).trail further trails children
        (p.entered node.type) := by
  rw [nodeTrail, hfound, Process.scriptFor]
  cases (p.entered node.type).exceeded with
  | some limit => rfl
  | none =>
    dsimp only
    rw [ruleTrail_eq_trail name rule node h]

theorem map_childTrails (cs : List Source.Content) :
    (childTrails further trails cs).map Prod.fst = resolveAll further cs := by
  induction cs with
  | nil => rfl
  | cons c rest ih => simp only [childTrails, List.map_cons, resolveAll, ih]

theorem childTrails_eq_map (cs : List Source.Content) : childTrails further trails cs =
    cs.map fun c => (resolve further c, contentTrail further trails c) := by
  induction cs with
  | nil => rfl
  | cons c rest ih => rw [childTrails, ih, List.map_cons]

theorem length_childTrails (cs : List Source.Content) :
    (childTrails further trails cs).length = cs.length := by
  rw [childTrails_eq_map, List.length_map]

theorem resolveTrail_eq (node : Source.Node) : resolveTrail further trails node =
    nodeTrail further trails node (childTrails further trails node.children) := by
  cases node with
  | root cs => rfl
  | content c => cases c <;> rfl

/-- A law that relates a process before a step, the trail of the step, and the process afterwards:
`whole` for the conversion of a node, and `part` for what is done within it. -/
structure Trail.Law (whole part : Process → List Reentry → Process → Prop) : Prop where
  none (p : Process) : whole p [] p
  logged (p : Process) (log : List String) : part p [] { p with log }
  dropped (p : Process) (name : String) : part p [] { p with registry := p.registry.remove name }
  append {p q r : Process} {before after : List Reentry} (hp : part p before q)
    (hq : part q after r) : part p (before ++ after) r
  below {p q : Process} {trail : List Reentry} (h : whole p trail q) :
    part p (trail.map fun r => { r with level := r.level + 1 }) q
  left {p q : Process} {type : String} {trail : List Reentry}
    (h : part (p.entered type) trail q) : whole p trail q.left

def Traced.Obeys (whole : Process → List Reentry → Process → Prop) (t : Traced) : Prop :=
  ∀ p, whole p (t.2 p) (t.1 p).2

section

variable {whole part : Process → List Reentry → Process → Prop}

theorem Trail.Law.start (law : Trail.Law whole part) (p : Process) : part p [] p :=
  law.logged p p.log

/-- The conversions that may be started when `room` more fit within one another. -/
def Further.within (room : Nat) : Further :=
  ⟨convertWithin room, transformWith (convertWithin room)⟩

structure Further.Obeys (further : Further) (trails : Source.Node → Trail)
    (whole part : Process → List Reentry → Process → Prop) : Prop where
  convert (node : Source.Node) : Traced.Obeys whole (further.convert node, trails node)
  transform (tree : Source.Node) (p : Process) :
    part p [⟨1, (further.transform tree p).2.depth⟩] (further.transform tree p).2

theorem Script.step_obeys (law : Trail.Law whole part)
    (hfurther : further.Obeys trails whole part) {children : List Traced}
    (hchildren : ∀ t ∈ children, t.Obeys whole) {script rest : Script} {p q : Process}
    (h : script.step further (children.map Prod.fst) p = some (rest, q)) :
    ∃ before, part p before q ∧ script.trail further trails children p =
      before ++ rest.trail further trails children q := by
  cases script with
  | done d => cases h
  | fail e => cases h
  | readDepth next => cases h; exact ⟨[], law.start p, rfl⟩
  | readSources next => cases h; exact ⟨[], law.start p, rfl⟩
  | dropRule name next => cases h; exact ⟨[], law.dropped p name, rfl⟩
  | note message next => cases h; exact ⟨[], law.logged p _, rfl⟩
  | child n next =>
    rw [step, List.getElem?_map] at h
    rw [trail]
    cases hn : children[n]? with
    | none =>
      rw [hn] at h
      cases h
      exact ⟨[], law.start p, rfl⟩
    | some t =>
      rw [hn] at h
      cases h
      exact ⟨_, law.below (hchildren t (List.mem_of_getElem? hn) p), rfl⟩
  | convert node next => cases h; exact ⟨_, law.below (hfurther.convert node p), rfl⟩
  | transform tree next => cases h; exact ⟨_, hfurther.transform tree p, rfl⟩

theorem Script.trail_obeys (law : Trail.Law whole part)
    (hfurther : further.Obeys trails whole part) {children : List Traced}
    (hchildren : ∀ t ∈ children, t.Obeys whole) (script : Script) :
    Traced.Obeys part (script.run further (children.map Prod.fst),
      script.trail further trails children) := by
  induction script using Script.step_induction with
  | next script ih =>
    intro p
    dsimp only
    cases hstep : script.step further (children.map Prod.fst) p with
    | none =>
      rcases ended_of_step_eq_none hstep with ⟨d, rfl⟩ | ⟨e, rfl⟩ <;> exact law.start p
    | some left =>
      obtain ⟨rest, q⟩ := left
      obtain ⟨before, hbefore, htrail⟩ := step_obeys law hfurther hchildren hstep
      rw [htrail, run_of_step hstep]
      exact law.append hbefore (ih _ _ _ _ _ hstep q)

theorem nodeTrail_obeys (law : Trail.Law whole part)
    (hfurther : further.Obeys trails whole part) (node : Source.Node) {children : List Traced}
    (hlength : children.length = node.children.length)
    (hchildren : ∀ t ∈ children, t.Obeys whole) :
    Traced.Obeys whole (convertNode further node (children.map Prod.fst),
      nodeTrail further trails node children) := by
  intro p
  have hnone : whole p [] (p.entered node.type).left := law.left (law.start _)
  dsimp only
  cases hfound : (p.registry.find node.type).1 with
  | error e => rw [convertNode_run, nodeTrail, hfound]; exact hnone
  | ok found =>
    cases found with
    | none => rw [convertNode_run, nodeTrail, hfound]; exact hnone
    | some found =>
      obtain ⟨name, rule⟩ := found
      rw [convertNode_of_found ((List.length_map _).trans hlength) hfound,
        nodeTrail_of_found hlength hfound]
      exact law.left (Script.trail_obeys law hfurther hchildren _ _)

theorem childTrails_obeys {cs : List Source.Content}
    (h : ∀ c ∈ cs, Traced.Obeys whole (resolve further c, contentTrail further trails c)) :
    ∀ t ∈ childTrails further trails cs, t.Obeys whole := by
  intro t ht
  rw [childTrails_eq_map] at ht
  obtain ⟨c, hc, rfl⟩ := List.mem_map.mp ht
  exact h c hc

theorem resolveTrail_obeys (law : Trail.Law whole part)
    (hfurther : further.Obeys trails whole part) (node : Source.Node) :
    Traced.Obeys whole (resolveNode further node, resolveTrail further trails node) := by
  induction node using Source.Node.induction with
  | step node ih =>
    rw [resolveNode_eq, resolveTrail_eq, ← map_childTrails]
    exact nodeTrail_obeys law hfurther node (length_childTrails _) (childTrails_obeys ih)

/-- A law holds of all conversions if it holds of the whole conversions that are started within
them, given that it holds of the conversions that these consist of. -/
theorem Further.within_obeys (law : Trail.Law whole part)
    (htransform : ∀ room,
      (∀ node, Traced.Obeys whole (convertWithin room node, trailWithin room node)) →
      ∀ tree p, part p [⟨1, (transformWith (convertWithin room) tree p).2.depth⟩]
        (transformWith (convertWithin room) tree p).2)
    (room : Nat) : (Further.within room).Obeys (trailWithin room) whole part := by
  have hconvert : ∀ node, Traced.Obeys whole (convertWithin room node, trailWithin room node) := by
    induction room with
    | zero => exact fun _ => law.none
    | succ room ih => exact resolveTrail_obeys law ⟨ih, htransform room ih⟩
  exact ⟨hconvert, htransform room hconvert⟩

end

structure Process.Steady (p q : Process) : Prop where
  sources : q.sources = p.sources
  depth : q.depth = p.depth

theorem Process.Steady.refl (p : Process) : p.Steady p := ⟨rfl, rfl⟩

theorem Process.Steady.trans {p q r : Process} (h : p.Steady q) (h' : q.Steady r) : p.Steady r :=
  ⟨h'.sources.trans h.sources, h'.depth.trans h.depth⟩

theorem Process.Steady.left {p q : Process} {type : String} (h : (p.entered type).Steady q) :
    p.Steady q.left :=
  ⟨h.sources, by simp only [Process.left, h.depth, entered, Int.add_sub_cancel]⟩

def Process.Faithful (p : Process) (trail : List Reentry) (q : Process) : Prop :=
  trail = [] → p.Steady q

theorem Process.faithful_law : Trail.Law Process.Faithful Process.Faithful where
  none p _ := .refl p
  logged _ _ _ := ⟨rfl, rfl⟩
  dropped _ _ _ := ⟨rfl, rfl⟩
  append hp hq h := (hp (List.append_eq_nil_iff.mp h).1).trans (hq (List.append_eq_nil_iff.mp h).2)
  below h hnil := h (List.map_eq_nil_iff.mp hnil)
  left h hnil := (h hnil).left

theorem Further.within_faithful (room : Nat) :
    (Further.within room).Obeys (trailWithin room) Process.Faithful Process.Faithful :=
  -- A whole conversion leaves a record of its own, so the trail is not empty.
  within_obeys Process.faithful_law (fun _ _ _ _ hnil => absurd hnil (List.cons_ne_nil _ _)) room

theorem transformWithin_steady {room : Nat} {tree : Source.Node} {p : Process}
    (h : reentries room tree p = []) : (p.prepared tree).Steady (transformWithin room tree p).2 :=
  (Further.within_faithful room).convert (p.filtered tree) (p.prepared tree) h

end RichMarkdown
