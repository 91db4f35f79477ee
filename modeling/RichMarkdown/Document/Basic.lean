import RichMarkdown.Json.Basic

/-! The document tree of a rich-text editor: nodes with attributes, content and marks. -/
namespace RichMarkdown

structure Mark where
  type : String
  attrs : Option (List (String × Json)) := none

/-- A node of the document. Formatting lies in its marks, not in nodes around it. -/
structure DocNode where
  type : String
  attrs : Option (List (String × Json)) := none
  content : Option (List DocNode) := none
  marks : Option (List Mark) := none
  text : Option String := none

namespace DocNode

/-- The node with one more mark, which comes first. Marks are applied from the inside out, so the
outermost one ends up first. -/
def applyMark (mark : Mark) (d : DocNode) : DocNode :=
  { d with marks := some (mark :: d.marks.getD []) }

def ofText (s : String) : DocNode :=
  { type := "text", text := some s }

end DocNode

end RichMarkdown
