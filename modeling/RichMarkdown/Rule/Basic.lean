import RichMarkdown.Rule.Script

/-! Conversion rules. A rule claims types of source nodes and says what becomes of them. Without a
conversion of its own, the name of the rule is the type of the result. -/
namespace RichMarkdown

/-- Node rules become nodes of the document. Mark rules become marks of the content that they
wrap. -/
inductive RuleKind where
  | node
  | mark
  | other (name : String)
  deriving DecidableEq

def RuleKind.ofName : String → RuleKind
  | "node" => node
  | "mark" => mark
  | name => other name

def RuleKind.name : RuleKind → String
  | node => "node"
  | mark => "mark"
  | other name => name

structure Rule where
  kind : RuleKind
  claims : List String
  convert : Option Conversion := none
  /-- A text for the way back to markdown. Conversions do not use it. -/
  serialize : Option String := none

end RichMarkdown
