import RichMarkdown.Process.Basic
import RichMarkdown.Source.Dump
import RichMarkdown.Source.Filter
import RichMarkdown.Source.References

/-! Converting a source tree node by node, and whole trees on a process. -/
namespace RichMarkdown

open Source (Content)

/-- The conversions that a script may start beside those of the children of its node. -/
structure Further where
  convert : Source.Node → ConvertM DocNode
  transform : Source.Node → ConvertM DocNode

def Script.run (further : Further) (children : List (ConvertM DocNode)) : Script → ConvertM DocNode
  | done d => pure d
  | fail e => throw e
  | readDepth next => do run further children (next (← get).depth)
  | readSources next => do run further children (next (← get).sources)
  | dropRule name next => do
    modify fun p => { p with registry := p.registry.remove name }
    run further children next
  | note message next => do
    ConvertM.log message
    run further children next
  | child n next =>
    match children[n]? with
    | some step => do run further children (next (← step.outcome))
    | none => run further children (next (.error .noSuchChild))
  | convert node next => do run further children (next (← (further.convert node).outcome))
  | transform tree next => do run further children (next (← (further.transform tree).outcome))

def checkDepth : ConvertM Unit := do
  let p ← get
  match p.options.maxDepth with
  | some limit => if limit < p.depth then throw (.tooDeep limit)
  | none => pure ()

/-- What a rule makes of a node. Without a conversion of its own, a mark rule marks the result of
the first child, and any other rule makes a node of the results of all children. -/
def applyRule (further : Further) (name : String) (rule : Rule) (node : Source.Node)
    (children : List (ConvertM DocNode)) : ConvertM DocNode :=
  match rule.convert, rule.kind, children with
  | some script, _, _ => (script node).run further children
  | none, .mark, [] => do
    ConvertM.log ("Mark node " ++ Text.quoted node.type ++ " has no children, marking empty text")
    pure ((DocNode.ofText "").applyMark { type := name })
  | none, .mark, first :: _ => do
    let d ← first
    pure (d.applyMark { type := name })
  | none, _, _ => do
    let content ← ConvertM.sequence children
    pure { type := name, content := if content.isEmpty then none else some content }

def convertNode (further : Further) (node : Source.Node) (children : List (ConvertM DocNode)) :
    ConvertM DocNode := do
  match ← ConvertM.findRule node.type with
  | none => throw (.unmapped node.type node.dump)
  | some (name, rule) => ConvertM.nested do
    checkDepth
    applyRule further name rule node children

mutual

def resolve (further : Further) : Content → ConvertM DocNode
  | .leaf l => convertNode further (.content (.leaf l)) []
  | .parent p cs => convertNode further (.content (.parent p cs)) (resolveAll further cs)

def resolveAll (further : Further) : List Content → List (ConvertM DocNode)
  | [] => []
  | c :: rest => resolve further c :: resolveAll further rest

end

def resolveNode (further : Further) : Source.Node → ConvertM DocNode
  | .root cs => convertNode further (.root cs) (resolveAll further cs)
  | .content c => resolve further c

/-- A whole conversion: collects the definitions of the tree, drops what is ignored, and converts
the rest. -/
def transformWith (convert : Source.Node → ConvertM DocNode) (tree : Source.Node) :
    ConvertM DocNode := do
  let p ← get
  let sources := tree.references
  let (rest, removed) := tree.remove p.options.ignores p.options.cascade
  set { p with sources }
  ConvertM.log ("Collected " ++ toString sources.length ++ " definitions, removed " ++
    toString removed ++ " ignored nodes")
  modify fun p => { p with depth := 0 }
  convert rest

/-- Converts a node with at most `room` conversions started from within one another. -/
def convertWithin : (room : Nat) → Source.Node → ConvertM DocNode
  | 0, _ => throw .endless
  | room + 1, node =>
    resolveNode ⟨convertWithin room, transformWith (convertWithin room)⟩ node

def transformWithin (room : Nat) (tree : Source.Node) : ConvertM DocNode :=
  transformWith (convertWithin room) tree

/-- How many conversions may be started from within one another before they count as endless. The
number stands for the recursion limit of the runtime, which depends on how it is set up, so what is
proved of conversions that start others is proved for every limit. -/
def furtherLimit : Nat := 200

def convert (node : Source.Node) : ConvertM DocNode :=
  convertWithin furtherLimit node

def transform (tree : Source.Node) : ConvertM DocNode :=
  transformWithin furtherLimit tree

namespace Process

def filtered (p : Process) (tree : Source.Node) : Source.Node :=
  (tree.remove p.options.ignores p.options.cascade).1

end Process

end RichMarkdown
