/-! The markdown source tree: what a markdown text says, before it becomes a document. -/
namespace RichMarkdown.Source

structure HeadingDepth where
  val : Nat
  one_le : 1 ≤ val
  le_six : val ≤ 6
  deriving DecidableEq

def HeadingDepth.ofInt? (n : Int) : Option HeadingDepth :=
  if h : 1 ≤ n ∧ n ≤ 6 then some ⟨n.toNat, by omega, by omega⟩ else none

/-- A line `[label]: url "title"`. The identifier is what references are matched by. -/
structure Definition where
  identifier : String
  label : Option String
  url : String
  title : Option String
  deriving DecidableEq

inductive Leaf where
  | text (value : String)
  | inlineCode (value : String)
  | hardBreak
  | thematicBreak
  | code (lang info : Option String) (value : String)
  | image (url : String) (title alt : Option String)
  | imageReference (identifier : String) (label alt : Option String)
  | definition (d : Definition)
  | footnoteReference (identifier : String) (label : Option String)
  deriving DecidableEq

inductive Parent where
  | paragraph
  | heading (depth : HeadingDepth)
  | blockquote
  | list (ordered : Bool) (start : Option Int)
  | listItem
  | table
  | tableRow
  | tableCell
  | emphasis
  | strong
  | delete
  | link (url : String) (title : Option String)
  | linkReference (identifier : String) (label : Option String)
  | footnoteDefinition (identifier : String) (label : Option String)
  deriving DecidableEq

inductive Content where
  | leaf (l : Leaf)
  | parent (p : Parent) (children : List Content)

inductive Node where
  | root (children : List Content)
  | content (c : Content)

def Leaf.type : Leaf → String
  | text _ => "text"
  | inlineCode _ => "inlineCode"
  | hardBreak => "break"
  | thematicBreak => "thematicBreak"
  | code .. => "code"
  | image .. => "image"
  | imageReference .. => "imageReference"
  | definition _ => "definition"
  | footnoteReference .. => "footnoteReference"

def Parent.type : Parent → String
  | paragraph => "paragraph"
  | heading _ => "heading"
  | blockquote => "blockquote"
  | list .. => "list"
  | listItem => "listItem"
  | table => "table"
  | tableRow => "tableRow"
  | tableCell => "tableCell"
  | emphasis => "emphasis"
  | strong => "strong"
  | delete => "delete"
  | link .. => "link"
  | linkReference .. => "linkReference"
  | footnoteDefinition .. => "footnoteDefinition"

namespace Content

def type : Content → String
  | leaf l => l.type
  | parent p _ => p.type

def children : Content → List Content
  | leaf _ => []
  | parent _ cs => cs

abbrev text (value : String) : Content :=
  leaf (.text value)

end Content

namespace Node

def type : Node → String
  | root _ => "root"
  | content c => c.type

def children : Node → List Content
  | root cs => cs
  | content c => c.children

end Node

/-- The name of the kind of node, as messages give it: its type with a capital. -/
def modelName (type : String) : String :=
  type.capitalize

end RichMarkdown.Source
