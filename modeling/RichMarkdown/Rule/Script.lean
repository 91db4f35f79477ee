import RichMarkdown.Document.Basic
import RichMarkdown.Source.Basic
import RichMarkdown.Error

/-! Custom conversions. A script says step by step what a conversion does with the node at hand:
it can have children or other nodes converted, look at the state of the process, drop rules, and
ends with a document node or an error. -/
namespace RichMarkdown

/-- The steps of a conversion on its process, each with what follows it. Conversions that add a
rule, edit the definitions, set the depth or look at or change the options are left out. -/
inductive Script where
  | done (d : DocNode)
  | fail (e : ConvertError)
  | readDepth (next : Int → Script)
  | readSources (next : Entries Source.Definition → Script)
  | dropRule (name : String) (next : Script)
  | note (message : String) (next : Script)
  | child (n : Nat) (next : Except ConvertError DocNode → Script)
  /-- Converts any node as if it were a child. -/
  | convert (node : Source.Node) (next : Except ConvertError DocNode → Script)
  /-- Runs a whole conversion of another tree on the same process. -/
  | transform (tree : Source.Node) (next : Except ConvertError DocNode → Script)

abbrev Conversion := Source.Node → Script

namespace Script

def finish : Except ConvertError DocNode → Script
  | .ok d => done d
  | .error e => fail e

def bindResult (next : DocNode → Script) : Except ConvertError DocNode → Script
  | .ok d => next d
  | .error e => fail e

def eachChild (n : Nat) : (count : Nat) → (next : List DocNode → Script) → Script
  | 0, next => next []
  | count + 1, next =>
    child n (bindResult fun d => eachChild (n + 1) count fun ds => next (d :: ds))

def children (node : Source.Node) (next : List DocNode → Script) : Script :=
  eachChild 0 node.children.length next

def field {α : Type} (node : Source.Node) (name : String) (value : Option α)
    (next : α → Script) : Script :=
  match value with
  | some a => next a
  | none => fail (.missingField (Source.modelName node.type) name)

end Script

end RichMarkdown
