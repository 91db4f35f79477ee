import RichMarkdown.Process.Resolve

/-! What the steps of a conversion do when they are run on a process: one equation for each. -/
namespace RichMarkdown

namespace ConvertM

variable {α β : Type}

@[simp] theorem run_pure (a : α) (p : Process) : (pure a : ConvertM α) p = (.ok a, p) := rfl

@[simp] theorem run_throw (e : ConvertError) (p : Process) :
    (throw e : ConvertM α) p = (.error e, p) := rfl

@[simp] theorem run_get (p : Process) : (get : ConvertM Process) p = (.ok p, p) := rfl

theorem run_bind (x : ConvertM α) (f : α → ConvertM β) (p : Process) :
    (x >>= f) p = match x p with
      | (.ok a, q) => f a q
      | (.error e, q) => (.error e, q) := by
  change ExceptT.bindCont f (x p).1 (x p).2 = _
  rcases x p with ⟨result, q⟩
  cases result <;> rfl

theorem run_map_state (x : ConvertM α) (f : α → β) (p : Process) :
    ((do return f (← x)) p).2 = (x p).2 := by
  rw [run_bind]
  rcases x p with ⟨result, q⟩
  cases result <;> rfl

theorem run_map_result (x : ConvertM α) (f : α → β) (p : Process) :
    ((do return f (← x)) p).1 = (x p).1.map f := by
  rw [run_bind]
  rcases x p with ⟨result, q⟩
  cases result <;> rfl

theorem run_findRule (type : String) (p : Process) :
    findRule type p = ((p.registry.find type).1,
      { p with registry := (p.registry.find type).2 }) := rfl

end ConvertM

namespace Process

/-- The process inside the conversion of a node: the rule of its type has been looked up, and the
conversion has gone one level deeper. -/
def entered (p : Process) (type : String) : Process :=
  { p with registry := (p.registry.find type).2, depth := p.depth + 1 }

def left (p : Process) : Process :=
  { p with depth := p.depth - 1 }

def exceeded (p : Process) : Option Int :=
  p.options.maxDepth.filter fun limit => limit < p.depth

def prepared (p : Process) (tree : Source.Node) : Process :=
  { p with
    sources := tree.references
    depth := 0
    log := p.log ++ ["Collected " ++ toString tree.references.length ++ " definitions, removed " ++
      toString (tree.remove p.options.ignores p.options.cascade).2 ++ " ignored nodes"] }

end Process

theorem ConvertM.run_nested {α : Type} (x : ConvertM α) (p : Process) :
    x.nested p = ((x { p with depth := p.depth + 1 }).1,
      (x { p with depth := p.depth + 1 }).2.left) := rfl

theorem checkDepth_run (p : Process) :
    checkDepth p = match p.exceeded with
      | some limit => (.error (.tooDeep limit), p)
      | none => (.ok (), p) := by
  simp only [checkDepth, ConvertM.run_bind, ConvertM.run_get, Process.exceeded]
  cases p.options.maxDepth with
  | none => rfl
  | some limit =>
    by_cases hlimit : limit < p.depth
    · simp [hlimit, Option.filter]
    · simp [hlimit, Option.filter]

theorem checkedStep_run {α : Type} (x : ConvertM α) (p : Process) :
    (do checkDepth; x : ConvertM α).nested p =
      match { p with depth := p.depth + 1 }.exceeded with
      | some limit => (.error (.tooDeep limit), { p with depth := p.depth + 1 }.left)
      | none => ((x { p with depth := p.depth + 1 }).1,
          (x { p with depth := p.depth + 1 }).2.left) := by
  rw [ConvertM.run_nested, ConvertM.run_bind, checkDepth_run]
  cases { p with depth := p.depth + 1 }.exceeded <;> rfl

theorem convertNode_run (further : Further) (node : Source.Node)
    (children : List (ConvertM DocNode)) (p : Process) :
    convertNode further node children p = match (p.registry.find node.type).1 with
      | .error e => (.error e, (p.entered node.type).left)
      | .ok none => (.error (.unmapped node.type node.dump), (p.entered node.type).left)
      | .ok (some (name, rule)) => match (p.entered node.type).exceeded with
        | some limit => (.error (.tooDeep limit), (p.entered node.type).left)
        | none =>
          ((applyRule further name rule node children (p.entered node.type)).1,
            (applyRule further name rule node children (p.entered node.type)).2.left) := by
  have hback : (p.entered node.type).left =
      { p with registry := (p.registry.find node.type).2 } := by
    simp [Process.entered, Process.left]
  rw [convertNode, ConvertM.run_bind, ConvertM.run_findRule]
  cases hfind : (p.registry.find node.type).1 with
  | error e => simp only [hback]
  | ok found =>
    cases found with
    | none => simp only [hback, ConvertM.run_throw]
    | some found =>
      obtain ⟨name, rule⟩ := found
      exact checkedStep_run _ { p with registry := (p.registry.find node.type).2 }

theorem transformWith_run (convert : Source.Node → ConvertM DocNode) (tree : Source.Node)
    (p : Process) : transformWith convert tree p = convert (p.filtered tree) (p.prepared tree) :=
  rfl

end RichMarkdown
