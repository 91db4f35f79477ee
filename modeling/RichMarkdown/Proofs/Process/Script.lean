import RichMarkdown.Proofs.Process.Run

/-! Every rule carries out a script, also one without a conversion of its own, and a script is run
step by step. -/
namespace RichMarkdown

open Source (Content)

variable {further : Further}

theorem resolveAll_eq_map (cs : List Content) :
    resolveAll further cs = cs.map (resolve further) := by
  induction cs with
  | nil => rfl
  | cons c rest ih => rw [resolveAll, ih, List.map_cons]

theorem resolveNode_eq (node : Source.Node) :
    resolveNode further node = convertNode further node (resolveAll further node.children) := by
  cases node with
  | root cs => rfl
  | content c => cases c <;> rfl

namespace ConvertM

theorem outcome_bind_bindResult (step : ConvertM DocNode) (children : List (ConvertM DocNode))
    (next : DocNode → Script) :
    (do (Script.bindResult next (← step.outcome)).run further children) =
      (do (next (← step)).run further children) := by
  funext p
  rw [run_bind, run_bind]
  change (Script.bindResult next (step p).1).run further children (step p).2 = _
  rcases step p with ⟨result, q⟩
  cases result <;> rfl

end ConvertM

namespace Script

variable {children : List (ConvertM DocNode)}

theorem run_child {n : Nat} {step : ConvertM DocNode} (h : children[n]? = some step)
    (next : DocNode → Script) :
    (child n (bindResult next)).run further children =
      (do (next (← step)).run further children) := by
  rw [run, h]
  exact ConvertM.outcome_bind_bindResult step children next

theorem run_eachChild (before rest : List (ConvertM DocNode)) (next : List DocNode → Script) :
    (eachChild before.length rest.length next).run further (before ++ rest) =
      (do (next (← ConvertM.sequence rest)).run further (before ++ rest)) := by
  -- The children before the place are part of the state of the loop, so they vary with it.
  induction rest generalizing before next with
  | nil => rw [ConvertM.sequence, pure_bind]; rfl
  | cons step rest ih =>
    have hplace : (before ++ step :: rest)[before.length]? = some step := by simp
    rw [List.length_cons, eachChild, run_child hplace, ConvertM.sequence, bind_assoc]
    refine bind_congr fun d => ?_
    have hrest := ih (before ++ [step]) fun ds => next (d :: ds)
    rw [List.length_append, List.append_assoc] at hrest
    refine hrest.trans ?_
    rw [bind_assoc]
    exact bind_congr fun ds => (pure_bind _ _).symm

theorem run_children {node : Source.Node} (h : children.length = node.children.length)
    (next : List DocNode → Script) : (Script.children node next).run further children =
      (do (next (← ConvertM.sequence children)).run further children) := by
  rw [Script.children, ← h]
  exact run_eachChild [] children next

def step (further : Further) (children : List (ConvertM DocNode)) :
    Script → Process → Option (Script × Process)
  | done _, _ => none
  | fail _, _ => none
  | readDepth next, p => some (next p.depth, p)
  | readSources next, p => some (next p.sources, p)
  | dropRule name next, p => some (next, { p with registry := p.registry.remove name })
  | note message next, p => some (next, { p with log := p.log ++ [message] })
  | child n next, p =>
    match children[n]? with
    | some step => some (next (step p).1, (step p).2)
    | none => some (next (.error .noSuchChild), p)
  | convert node next, p => some (next (further.convert node p).1, (further.convert node p).2)
  | transform tree next, p =>
    some (next (further.transform tree p).1, (further.transform tree p).2)

theorem step_induction {motive : Script → Prop}
    (next : ∀ script : Script, (∀ further children p rest q,
      script.step further children p = some (rest, q) → motive rest) → motive script)
    (script : Script) : motive script := by
  induction script with
  | child n rest ih =>
    refine next _ fun further children p left q h => ?_
    rw [step] at h
    split at h <;> cases h <;> exact ih _
  | done | fail => exact next _ fun _ _ _ _ _ h => nomatch h
  | _ =>
    next ih =>
      refine next _ fun further children p left q h => ?_
      cases h
      apply ih

theorem ended_of_step_eq_none {script : Script} {p : Process}
    (h : script.step further children p = none) :
    (∃ d, script = .done d) ∨ ∃ e, script = .fail e := by
  cases script with
  | done d => exact .inl ⟨d, rfl⟩
  | fail e => exact .inr ⟨e, rfl⟩
  | child n next =>
    rw [step] at h
    split at h <;> cases h
  | _ => cases h

theorem run_of_step {script rest : Script} {p q : Process}
    (h : script.step further children p = some (rest, q)) :
    script.run further children p = rest.run further children q := by
  cases script with
  | done d => cases h
  | fail e => cases h
  | child n next =>
    cases hn : children[n]? with
    | none =>
      simp only [step, hn] at h
      cases h
      rw [run, hn]
    | some result =>
      simp only [step, hn] at h
      cases h
      rw [run, hn]
      rfl
  | _ => cases h; rfl

end Script

/-- What a rule has done with a node, as a script. Without a conversion of its own, a mark rule
marks what becomes of the first child, and any other rule makes a node of all children. -/
def Rule.script (name : String) (rule : Rule) (node : Source.Node) : Script :=
  match rule.convert, rule.kind, node.children with
  | some conversion, _, _ => conversion node
  | none, .mark, [] =>
    .note ("Mark node " ++ Text.quoted node.type ++ " has no children, marking empty text")
      (.done ((DocNode.ofText "").applyMark { type := name }))
  | none, .mark, _ :: _ => .child 0 (.bindResult fun d => .done (d.applyMark { type := name }))
  | none, _, _ => .children node fun content =>
    .done { type := name, content := if content.isEmpty then none else some content }

def Process.scriptFor (p : Process) (name : String) (rule : Rule) (node : Source.Node) : Script :=
  match p.exceeded with
  | some limit => .fail (.tooDeep limit)
  | none => rule.script name node

theorem applyRule_eq_run (name : String) (rule : Rule) (node : Source.Node)
    {children : List (ConvertM DocNode)} (h : children.length = node.children.length) :
    applyRule further name rule node children = (rule.script name node).run further children := by
  let make (content : List DocNode) : DocNode :=
    { type := name, content := if content.isEmpty then none else some content }
  have hall : (Script.children node fun content => .done (make content)).run further children =
      (do return make (← ConvertM.sequence children)) := Script.run_children h _
  unfold applyRule Rule.script
  cases rule.convert with
  | some conversion => rfl
  | none =>
    cases rule.kind with
    | node => exact hall.symm
    | other kind => exact hall.symm
    | mark =>
      cases hcs : node.children with
      | nil =>
        rw [List.eq_nil_of_length_eq_zero (h.trans (congrArg List.length hcs))]
        rfl
      | cons c rest =>
        cases children with
        | nil => rw [hcs] at h; cases h
        | cons first others =>
          have hfirst : (first :: others)[0]? = some first := rfl
          exact (Script.run_child hfirst fun d => .done (d.applyMark { type := name })).symm

theorem convertNode_of_found {node : Source.Node} {children : List (ConvertM DocNode)} {p : Process}
    {name : String} {rule : Rule} (h : children.length = node.children.length)
    (hfound : (p.registry.find node.type).1 = .ok (some (name, rule))) :
    convertNode further node children p =
      ((((p.entered node.type).scriptFor name rule node).run further children
          (p.entered node.type)).1,
        (((p.entered node.type).scriptFor name rule node).run further children
          (p.entered node.type)).2.left) := by
  rw [convertNode_run, hfound, Process.scriptFor]
  cases (p.entered node.type).exceeded with
  | some limit => rfl
  | none =>
    dsimp only
    rw [applyRule_eq_run name rule node h]

end RichMarkdown
