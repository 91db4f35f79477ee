import RichMarkdown.Document.Payload
import RichMarkdown.Json.Printer
import RichMarkdown.Process.Session
import RichMarkdown.Proofs.Process.Moment
import RichMarkdown.Proofs.Registry.Lookup

/-! Custom conversions that start whole conversions on their own process, against ones that start
them on a process apart, which shares the registry. The two go the same way as long as no depth and
no definitions are read that an inner conversion has left behind. -/
namespace RichMarkdown

open Source (Content)

/-- A step on another process with the same options and the same registry. -/
def ConvertM.apart (step : ConvertM DocNode) : ConvertM DocNode := fun p =>
  let (result, q) := step { options := p.options, registry := p.registry, log := p.log }
  (result, { p with registry := q.registry, log := q.log })

/-- Converts a node as `convertWithin` does, but whole conversions that custom conversions of the
tree start are made apart. -/
def convertApart : (room : Nat) → Source.Node → ConvertM DocNode
  | 0, _ => throw .endless
  | room + 1, node =>
    resolveNode
      ⟨convertApart room, fun tree => (transformWith (convertWithin room) tree).apart⟩ node

def transformApart (room : Nat) (tree : Source.Node) : ConvertM DocNode :=
  transformWith (convertApart room) tree

def Further.apart (room : Nat) : Further :=
  ⟨convertApart room, fun tree => (transformWith (convertWithin room) tree).apart⟩

structure Process.Kept (p : Process) (trail : List Reentry) (q : Process) : Prop where
  options : q.options = p.options
  rules : q.registry.rules ⊆ p.registry.rules

theorem Process.kept_law : Trail.Law Process.Kept Process.Kept where
  none _ := ⟨rfl, List.Subset.refl _⟩
  logged _ _ := ⟨rfl, List.Subset.refl _⟩
  dropped p name := by
    refine ⟨rfl, ?_⟩
    rw [Registry.remove_rules]
    exact (Entries.erase_sublist name p.registry.rules).subset
  append hp hq := ⟨hq.options.trans hp.options, List.Subset.trans hq.rules hp.rules⟩
  below h := ⟨h.options, h.rules⟩
  left {p q type trail} h := by
    refine ⟨h.options, ?_⟩
    have hrules := h.rules
    rw [entered, Registry.find_rules] at hrules
    exact hrules

theorem Further.within_kept (room : Nat) :
    (Further.within room).Obeys (trailWithin room) Process.Kept Process.Kept :=
  within_obeys Process.kept_law (fun _ ih tree p =>
    ⟨(ih (p.filtered tree) (p.prepared tree)).options,
      (ih (p.filtered tree) (p.prepared tree)).rules⟩) room

variable {sources : Entries Source.Definition} {level : Nat} {room : Nat} {node : Source.Node}
  {p q r : Process} {script rest : Script}

/-- The second process is where the first one would be if whole conversions were made apart: at
`level` levels of the tree, with the definitions of the tree. -/
structure Process.Beside (sources : Entries Source.Definition) (level : Nat) (p q : Process) :
    Prop where
  options : q.options = p.options
  registry : q.registry = p.registry
  log : q.log = p.log
  sources : q.sources = sources
  depth : q.depth = level

theorem Process.Beside.entered (h : p.Beside sources level q) (type : String) :
    (p.entered type).Beside sources (level + 1) (q.entered type) where
  options := h.options
  registry := by simp only [Process.entered, h.registry]
  log := h.log
  sources := h.sources
  depth := by simp only [Process.entered, h.depth, Int.natCast_add, Int.natCast_one]

theorem Process.Beside.left (h : p.Beside sources (level + 1) q) :
    p.left.Beside sources level q.left where
  options := h.options
  registry := h.registry
  log := h.log
  sources := h.sources
  depth := by simp only [Process.left, h.depth, Int.natCast_add, Int.natCast_one,
    Int.add_sub_cancel]

structure EndsAlike (sources : Entries Source.Definition) (level : Nat)
    (x y : Except ConvertError DocNode × Process) : Prop where
  result : x.1 = y.1
  beside : x.2.Beside sources level y.2

theorem EndsAlike.stepped {x y : Except ConvertError DocNode × Process}
    (h : EndsAlike sources level x y) (next : Except ConvertError DocNode → Script) :
    ∃ t, some (next y.1, y.2) = some (next x.1, t) ∧ x.2.Beside sources level t :=
  ⟨y.2, by rw [h.result], h.beside⟩

/-- A moment at which a script sees what it would see if nothing had been started on the process:
`level` levels below the top of a tree the depth is one more than that, and the definitions are
those of the tree. -/
structure Undisturbed (sources : Entries Source.Definition) (level : Nat) (script : Script)
    (p : Process) : Prop where
  exceeded : p.exceeded = p.options.maxDepth.filter fun limit => limit < (level : Int) + 1
  depth (next : Int → Script) : script = .readDepth next → next p.depth = next (level + 1)
  sources (next : Entries Source.Definition → Script) : script = .readSources next →
    next p.sources = next sources

theorem Undisturbed.exceeded_eq (h : Undisturbed sources level script p)
    (hq : p.Beside sources (level + 1) q) : q.exceeded = p.exceeded := by
  rw [h.exceeded, Process.exceeded, hq.options, hq.depth]
  rfl

theorem Process.Beside.transform (h : p.Beside sources level q) (room : Nat) (tree : Source.Node) :
    EndsAlike sources level (transformWith (convertWithin room) tree p)
      ((transformWith (convertWithin room) tree).apart q) := by
  have hfresh : transformWith (convertWithin room) tree
      { options := q.options, registry := q.registry, log := q.log } =
        transformWith (convertWithin room) tree p := by
    rw [h.options, h.registry, h.log]
    rfl
  rw [ConvertM.apart, hfresh]
  have hkept := (Further.within_kept room).transform tree p
  exact ⟨rfl, h.options.trans hkept.options.symm, rfl, rfl, h.sources, h.depth⟩

def UndisturbedWithin (sources : Entries Source.Definition) (level room : Nat) (node : Source.Node)
    (p : Process) : Prop :=
  ∀ below script q, Converting room node p below script q →
    Undisturbed sources (level + below) script q

def ConvertsAlike (sources : Entries Source.Definition) (room : Nat) (node : Source.Node) : Prop :=
  ∀ (level : Nat) (p q : Process), UndisturbedWithin sources level room node p →
    p.Beside sources level q →
    EndsAlike sources level (convertWithin room node p) (convertApart room node q)

theorem ConvertsAlike.at_moment (h : ConvertsAlike sources room node)
    (hmoments : ∀ below script r, Converting room node p below script r →
      Undisturbed sources (level + (below + 1)) script r)
    (hq : p.Beside sources (level + 1) q) :
    EndsAlike sources (level + 1) (convertWithin room node p) (convertApart room node q) := by
  refine h (level + 1) p q (fun below script r hr => ?_) hq
  rw [Nat.add_assoc, Nat.add_comm 1 below]
  exact hmoments below script r hr

theorem Underway.step_alike
    (hchildren : ∀ c ∈ node.children, ConvertsAlike sources (room + 1) (.content c))
    (hfurther : ∀ other, ConvertsAlike sources room other)
    (hmoments : UndisturbedWithin sources level (room + 1) node p)
    (h : Underway room node p script q) {s : Process} (hs : q.Beside sources (level + 1) s)
    (hstep : script.step (.within room) (resolveAll (.within room) node.children) q =
      some (rest, r)) :
    ∃ t, script.step (.apart room) (resolveAll (.apart room) node.children) s = some (rest, t) ∧
      r.Beside sources (level + 1) t := by
  have hhere : Undisturbed sources level script q := hmoments 0 script q (.here h)
  cases script with
  | done d => cases hstep
  | fail e => cases hstep
  -- The two kinds of steps that see what an inner conversion has left behind.
  | readDepth next =>
    cases hstep
    refine ⟨s, ?_, hs⟩
    rw [Script.step, hs.depth, hhere.depth next rfl]
    rfl
  | readSources next =>
    cases hstep
    refine ⟨s, ?_, hs⟩
    rw [Script.step, hs.sources, hhere.sources next rfl]
  | dropRule name next =>
    cases hstep
    exact ⟨_, rfl, hs.options, congrArg (·.remove name) hs.registry, hs.log, hs.sources, hs.depth⟩
  | note message next =>
    cases hstep
    exact ⟨_, rfl, hs.options, hs.registry, congrArg (· ++ [message]) hs.log, hs.sources, hs.depth⟩
  | child n next =>
    rw [Script.step, resolveAll_eq_map, List.getElem?_map] at hstep ⊢
    cases hc : node.children[n]? with
    | none =>
      rw [hc] at hstep
      cases hstep
      exact ⟨s, rfl, hs⟩
    | some c =>
      rw [hc] at hstep
      cases hstep
      have hbelow := (hchildren c (List.mem_of_getElem? hc)).at_moment
        (fun below script r hr => hmoments (below + 1) script r (.child h hc hr)) hs
      exact hbelow.stepped next
  | convert other next =>
    cases hstep
    have hbelow := (hfurther other).at_moment
      (fun below script r hr => hmoments (below + 1) script r (.convert h hr)) hs
    exact hbelow.stepped next
  | transform tree next =>
    cases hstep
    exact (hs.transform room tree).stepped next

theorem Underway.run_alike
    (hchildren : ∀ c ∈ node.children, ConvertsAlike sources (room + 1) (.content c))
    (hfurther : ∀ other, ConvertsAlike sources room other)
    (hmoments : UndisturbedWithin sources level (room + 1) node p)
    (h : Underway room node p script q) {s : Process} (hs : q.Beside sources (level + 1) s) :
    EndsAlike sources (level + 1)
      (script.run (.within room) (resolveAll (.within room) node.children) q)
      (script.run (.apart room) (resolveAll (.apart room) node.children) s) := by
  induction script using Script.step_induction generalizing q s with
  | next script ih =>
    cases hstep : script.step (.within room) (resolveAll (.within room) node.children) q with
    | none =>
      rcases Script.ended_of_step_eq_none hstep with ⟨d, rfl⟩ | ⟨e, rfl⟩
      · exact ⟨rfl, hs⟩
      · exact ⟨rfl, hs⟩
    | some left =>
      obtain ⟨rest, r⟩ := left
      obtain ⟨t, ht, hbeside⟩ := h.step_alike hchildren hfurther hmoments hs hstep
      rw [Script.run_of_step hstep, Script.run_of_step ht]
      exact ih _ _ _ _ _ hstep (h.step hstep) hbeside

theorem convertWithin_alike (room : Nat) (node : Source.Node) :
    ConvertsAlike sources room node := by
  -- What scripts convert has less room but may be any node, and the children have the same room.
  induction room generalizing node with
  | zero => exact fun level p q _ hq => ⟨rfl, hq⟩
  | succ room ih =>
    induction node using Source.Node.induction with
    | step node hchildren =>
      intro level p q hmoments hq
      have hentered := hq.entered node.type
      rw [convertWithin, convertApart, resolveNode_eq, resolveNode_eq]
      cases hfound : (p.registry.find node.type).1 with
      | error e =>
        rw [convertNode_run, convertNode_run, hq.registry, hfound]
        exact ⟨rfl, hentered.left⟩
      | ok found =>
        cases found with
        | none =>
          rw [convertNode_run, convertNode_run, hq.registry, hfound]
          exact ⟨rfl, hentered.left⟩
        | some found =>
          obtain ⟨name, rule⟩ := found
          have hfound' : (q.registry.find node.type).1 = .ok (some (name, rule)) := by
            rw [hq.registry, hfound]
          have hbegun : Underway room node p ((p.entered node.type).scriptFor name rule node)
            (p.entered node.type) := .entered hfound
          have hexceeded := (hmoments 0 _ _ (.here hbegun)).exceeded_eq hentered
          have hscript : (q.entered node.type).scriptFor name rule node =
              (p.entered node.type).scriptFor name rule node := by
            rw [Process.scriptFor, hexceeded, Process.scriptFor]
          have hrun := hbegun.run_alike hchildren ih hmoments hentered
          rw [convertNode_of_found (length_resolveAll _) hfound,
            convertNode_of_found (length_resolveAll _) hfound', hscript]
          exact ⟨hrun.result, hrun.beside.left⟩

theorem transformWithin_alike {tree : Source.Node}
    (h : ∀ level script q, Converting room (p.filtered tree) (p.prepared tree) level script q →
      Undisturbed tree.references level script q) :
    EndsAlike tree.references 0 (transformWithin room tree p) (transformApart room tree p) := by
  have hmoments : UndisturbedWithin tree.references 0 room (p.filtered tree)
      (p.prepared tree) := by
    simpa only [UndisturbedWithin, Nat.zero_add] using h
  exact convertWithin_alike room (p.filtered tree) 0 (p.prepared tree) (p.prepared tree)
    hmoments ⟨rfl, rfl, rfl, rfl, rfl⟩

/-- A script that looks neither at the depth of the process nor at its definitions. -/
inductive Script.Blind : Script → Prop
  | done (d : DocNode) : Blind (.done d)
  | fail (e : ConvertError) : Blind (.fail e)
  | dropRule {name : String} {next : Script} : next.Blind → Blind (.dropRule name next)
  | note {message : String} {next : Script} : next.Blind → Blind (.note message next)
  | child {n : Nat} {next : Except ConvertError DocNode → Script} :
      (∀ result, (next result).Blind) → Blind (.child n next)
  | convert {other : Source.Node} {next : Except ConvertError DocNode → Script} :
      (∀ result, (next result).Blind) → Blind (.convert other next)
  | transform {tree : Source.Node} {next : Except ConvertError DocNode → Script} :
      (∀ result, (next result).Blind) → Blind (.transform tree next)

namespace Script

theorem Blind.bindResult {next : DocNode → Script} (h : ∀ d, (next d).Blind)
    (result : Except ConvertError DocNode) : (bindResult next result).Blind := by
  cases result with
  | ok d => exact h d
  | error e => exact .fail e

theorem Blind.finish (result : Except ConvertError DocNode) : (finish result).Blind := by
  cases result with
  | ok d => exact .done d
  | error e => exact .fail e

theorem Blind.eachChild (n count : Nat) {next : List DocNode → Script}
    (h : ∀ ds, (next ds).Blind) : (eachChild n count next).Blind := by
  induction count generalizing n next with
  | zero => exact h []
  | succ count ih => exact .child (.bindResult fun d => ih (n + 1) fun ds => h (d :: ds))

theorem Blind.parse (text : String) {next : Except ConvertError DocNode → Script}
    (h : ∀ result, (next result).Blind) : (parse text next).Blind := by
  have hnotes : ∀ (log : List String) {rest : Script}, rest.Blind →
      (log.foldr Script.note rest).Blind := by
    intro log rest hrest
    induction log with
    | nil => exact hrest
    | cons message log ih => exact .note ih
  unfold Script.parse
  split
  · exact hnotes _ (.transform h)
  · exact hnotes _ (h _)

theorem Blind.step {script rest : Script} (h : script.Blind) {further : Further}
    {children : List (ConvertM DocNode)} {p q : Process}
    (hstep : script.step further children p = some (rest, q)) : rest.Blind := by
  cases h with
  | done d => cases hstep
  | fail e => cases hstep
  | dropRule h => cases hstep; exact h
  | note h => cases hstep; exact h
  | child h =>
    rw [Script.step] at hstep
    split at hstep <;> cases hstep <;> exact h _
  | convert h => cases hstep; exact h _
  | transform h => cases hstep; exact h _

end Script

def Rule.Blind (rule : Rule) : Prop :=
  ∀ conversion, rule.convert = some conversion → ∀ node, (conversion node).Blind

theorem Rule.script_blind {rule : Rule} (h : rule.Blind) (name : String) (node : Source.Node) :
    (rule.script name node).Blind := by
  unfold Rule.script
  split
  · next conversion hconversion => exact h conversion hconversion node
  · exact .note (.done _)
  · exact .child (.bindResult fun d => .done _)
  · exact .eachChild 0 _ fun ds => .done _

structure Process.Blind (p : Process) : Prop where
  rules : ∀ entry ∈ p.registry.rules, entry.2.Blind
  unlimited : p.options.maxDepth = none

theorem Process.Blind.kept {trail : List Reentry} (h : p.Blind) (hkept : p.Kept trail q) :
    q.Blind where
  rules entry hentry := h.rules entry (hkept.rules hentry)
  unlimited := by rw [hkept.options, h.unlimited]

theorem Process.Blind.entered (h : p.Blind) (type : String) : (p.entered type).Blind where
  rules := by simpa only [Process.entered, Registry.find_rules] using h.rules
  unlimited := h.unlimited

theorem Underway.blind (hp : p.Blind) (h : Underway room node p script q) :
    script.Blind ∧ q.Blind := by
  have hscript : script.Blind := by
    induction h with
    | entered hfound =>
      have hrule := hp.rules _ (Registry.mem_rules_of_find hfound)
      unfold Process.scriptFor
      split
      · exact .fail _
      · exact Rule.script_blind hrule _ _
    | step before hstep ih => exact ih.step hstep
  obtain ⟨before, hkept, -⟩ := h.obeys Process.kept_law (Further.within_kept room)
  exact ⟨hscript, (hp.entered node.type).kept hkept⟩

theorem Converting.blind (hp : p.Blind) (h : Converting room node p level script q) :
    script.Blind ∧ q.Blind := by
  induction h with
  | here h => exact h.blind hp
  | child before hc below ih => exact ih (before.blind hp).2
  | convert before below ih => exact ih (before.blind hp).2

theorem Process.Blind.prepared (h : p.Blind) (tree : Source.Node) : (p.prepared tree).Blind :=
  ⟨h.rules, h.unlimited⟩

theorem Converting.undisturbed (hp : p.Blind) (h : Converting room node p level script q) :
    Undisturbed sources level script q := by
  obtain ⟨hscript, hq⟩ := h.blind hp
  exact {
    exceeded := by rw [Process.exceeded, hq.unlimited]; rfl
    depth := fun next hnext => by subst hnext; cases hscript
    sources := fun next hnext => by subst hnext; cases hscript }

/-- If the conversion of a tree is undisturbed, it ends as if the whole conversions that its custom
conversions start were made apart, and leaves the same registry and the same log. -/
theorem transform_undisturbed {room : Nat} {tree : Source.Node} {p : Process}
    (h : ∀ level script q, Converting room (p.filtered tree) (p.prepared tree) level script q →
      Undisturbed tree.references level script q) :
    (transformWithin room tree p).1 = (transformApart room tree p).1 ∧
      (transformWithin room tree p).2.registry = (transformApart room tree p).2.registry ∧
      (transformWithin room tree p).2.log = (transformApart room tree p).2.log := by
  have hends := transformWithin_alike h
  exact ⟨hends.result, hends.beside.registry.symm, hends.beside.log.symm⟩

def reparsing (rules : Registry) (maxDepth : Option Int) : Process :=
  { options := { Options.default with maxDepth }
    registry := rules.add "codeBlock"
      (Registry.nodeRule "code" (some fun _ => .parse "" .finish)) }

def plainRules : Registry :=
  .ofPairs [("doc", Registry.nodeRule "root"), ("paragraph", Registry.nodeRule "paragraph")]

theorem reparsing_blind : (reparsing plainRules none).Blind where
  unlimited := rfl
  rules := by
    have husual : ∀ type, (Registry.nodeRule type).Blind := fun _ _ hnone => nomatch hnone
    have hrules : (reparsing plainRules none).registry.rules =
        [("doc", Registry.nodeRule "root"), ("paragraph", Registry.nodeRule "paragraph"),
          ("codeBlock", Registry.nodeRule "code" (some fun _ => .parse "" .finish))] := rfl
    rw [hrules]
    simp only [List.forall_mem_cons, List.not_mem_nil, false_imp_iff, implies_true, and_true]
    refine ⟨husual _, husual _, fun conversion hconversion node => ?_⟩
    cases hconversion
    exact .parse "" .finish

def interruptedParagraph : Source.Node :=
  .root [.leaf (.code none none ""), .parent .paragraph []]

theorem interruptedParagraph_undisturbed :
    reentries furtherLimit interruptedParagraph (reparsing plainRules none) = [⟨2, 0⟩] ∧
    (transform interruptedParagraph (reparsing plainRules none)).1 =
      (transformApart furtherLimit interruptedParagraph (reparsing plainRules none)).1 := by
  refine ⟨by decide +kernel, (transform_undisturbed fun _ _ _ h => ?_).1⟩
  exact h.undisturbed (reparsing_blind.prepared interruptedParagraph)

def ending : Except ConvertError DocNode → String ⊕ ConvertError
  | .ok d => .inl d.payload.compact
  | .error e => .inr e

def interrupted : Source.Node :=
  .root [.leaf (.code none none ""), .leaf (.imageReference "a" none none),
    .leaf (.definition ⟨"a", none, "u", none⟩)]

def interruptedDeep : Source.Node :=
  .root [.leaf (.code none none ""),
    .parent .blockquote [.parent .blockquote [.parent .blockquote []]]]

/-- After the block of code the image no longer finds the definition of its tree, and a quotation at
level 4 passes a limit of 3. With the empty text parsed apart, the image has its address and the
quotation is too deep. -/
theorem reparsing_disturbs :
    ending (transform interrupted (reparsing .default none)).1 =
      .inl ("\x7b\"type\":\"doc\",\"content\":[\x7b\"type\":\"doc\"\x7d," ++
        "\x7b\"type\":\"image\",\"attrs\":\x7b\x7d\x7d]\x7d") ∧
    ending (transformApart furtherLimit interrupted (reparsing .default none)).1 =
      .inl ("\x7b\"type\":\"doc\",\"content\":[\x7b\"type\":\"doc\"\x7d," ++
        "\x7b\"type\":\"image\",\"attrs\":\x7b\"src\":\"u\"\x7d\x7d]\x7d") ∧
    (ending (transform interruptedDeep (reparsing .default (some 3))).1).isLeft = true ∧
    ending (transformApart furtherLimit interruptedDeep (reparsing .default (some 3))).1 =
      .inr (.tooDeep 3) := by
  refine ⟨?_, ?_, ?_, ?_⟩ <;> decide +kernel

end RichMarkdown
