import RichMarkdown.Json.Basic

/-! The syntax tree of a markdown text: its elements as they were written. -/
namespace RichMarkdown.Markup

structure Node where
  type : String
  tag : String := ""
  content : String := ""
  info : String := ""
  attrs : List (String × Json) := []
  data : List (String × Json) := []
  children : List Node := []

instance : Inhabited Node := ⟨{ type := "" }⟩

mutual

/-- The plain text of a node with all that is below it. A break counts as a space. -/
def Node.plainText : Node → String
  | ⟨type, _, content, _, _, _, children⟩ =>
    match children with
    | [] => if type = "softbreak" || type = "hardbreak" then " " else content
    | c :: rest => c.plainText ++ plainTexts rest

def plainTexts : List Node → String
  | [] => ""
  | c :: rest => c.plainText ++ plainTexts rest

end

end RichMarkdown.Markup
