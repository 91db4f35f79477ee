import RichMarkdown.Process.Resolve
import RichMarkdown.Source.Reader
import RichMarkdown.Markdown.Parse

/-! Processes at work, one step after another: several of them may share one registry, and they
work on named trees, which conversions change in place. -/
namespace RichMarkdown

def readMarkdown (text : String) : ConvertM Source.Node := fun p =>
  let (result, log) := Markdown.parse text
  (result.mapError .markup, { p with log := p.log ++ log })

def parseWithin (room : Nat) (text : String) : ConvertM DocNode := do
  transformWithin room (← readMarkdown text)

def parse (text : String) : ConvertM DocNode :=
  parseWithin furtherLimit text

def Script.parse (text : String) (next : Except ConvertError DocNode → Script) : Script :=
  match Markdown.parse text with
  | (.ok tree, log) => log.foldr Script.note (transform tree next)
  | (.error e, log) => log.foldr Script.note (next (.error (.markup e)))

inductive TreeSource where
  | json (j : Json)
  | markdown (text : String)

inductive SessionStep where
  | parse (text : String)
  | load (tree : String) (source : TreeSource)
  | transform (tree : String)
  /-- Converts a tree without collecting definitions or dropping anything. -/
  | resolve (tree : String)
  | addRule (name : String) (rule : Rule)
  | removeRule (name : String)
  | setSource (key : String) (definition : Json)
  | ruleNames
  | options

inductive Answer where
  | nothing
  | document (d : DocNode)
  | resolved (d : DocNode)
  | names (names : List String)
  | options (o : Options)

/-- How a step ended: its answer, the process afterwards with the messages of the step alone, and
the named tree afterwards if the step works on one. -/
structure Outcome where
  answer : Except ConvertError Answer
  process : Process
  tree : Option Source.Node := none

structure Session where
  processes : List Process
  shared : Bool
  trees : Entries Source.Node := []

namespace Session

def start (count : Nat) (options : Options) (registry : Registry) (shared : Bool) : Session :=
  { processes := List.replicate count { options, registry }, shared }

def findTree (name : String) (s : Session) : ConvertM Source.Node :=
  match s.trees.get? name with
  | some tree => pure tree
  | none => throw (.missingKey name)

def performWithin (room : Nat) (s : Session) : SessionStep → Process →
    (Except ConvertError Answer × Process) × Entries Source.Node
  | .parse text, p => (((.document <$> parseWithin room text : ConvertM Answer) p), s.trees)
  | .load name source, p =>
    let tree : ConvertM Source.Node := match source with
      | .json j => liftExcept ((Source.Node.read j).mapError .invalid)
      | .markdown text => readMarkdown text
    match tree p with
    | (.ok tree, p) => ((.ok .nothing, p), s.trees.put name tree)
    | (.error e, p) => ((.error e, p), s.trees)
  | .transform name, p =>
    let trees := match s.trees.get? name with
      | some tree => s.trees.put name (p.filtered tree)
      | none => s.trees
    ((do return .document (← transformWithin room (← s.findTree name)) : ConvertM Answer) p,
      trees)
  | .resolve name, p =>
    ((do return .resolved (← convertWithin room (← s.findTree name)) : ConvertM Answer) p, s.trees)
  | .addRule name rule, p =>
    let log := p.log ++ p.registry.addMessages name
    ((.ok .nothing, { p with registry := p.registry.add name rule, log }), s.trees)
  | .removeRule name, p =>
    ((.ok .nothing, { p with registry := p.registry.remove name }), s.trees)
  | .setSource key definition, p =>
    match Source.Definition.read definition with
    | .ok d => ((.ok .nothing, { p with sources := p.sources.put key d }), s.trees)
    | .error i => ((.error (.invalid i), p), s.trees)
  | .ruleNames, p => ((.ok (.names p.registry.names), p), s.trees)
  | .options, p => ((.ok (.options p.options), p), s.trees)
where
  liftExcept {α : Type} : Except ConvertError α → ConvertM α
    | .ok a => pure a
    | .error e => throw e

def treeName? : SessionStep → Option String
  | .transform name => some name
  | .resolve name => some name
  | _ => none

/-- Puts a process in its place. A shared registry is the same for all. -/
def putProcess (s : Session) (n : Nat) (p : Process) : Session :=
  let processes := s.processes.set n p
  { s with processes :=
      if s.shared then processes.map fun q => { q with registry := p.registry } else processes }

def stepWithin (room : Nat) (s : Session) (n : Nat) (action : SessionStep) :
    Option (Outcome × Session) := do
  let p ← s.processes[n]?
  let ((answer, q), trees) := s.performWithin room action { p with log := [] }
  let s := { s with trees }.putProcess n q
  return ({ answer, process := q, tree := (treeName? action).bind trees.get? }, s)

def step (s : Session) (n : Nat) (action : SessionStep) : Option (Outcome × Session) :=
  s.stepWithin furtherLimit n action

end Session

end RichMarkdown
