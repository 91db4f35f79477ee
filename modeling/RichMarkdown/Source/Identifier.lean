import RichMarkdown.Text.Space
import RichMarkdown.Text.Case

/-! The identifier that definitions and references share. -/
namespace RichMarkdown.Source

/-- The words of a label in lower case, with one space between each two. -/
def normalizeIdentifier (label : String) : String :=
  String.ofList (Text.lower (Text.collapseBy Text.isSpace label.toList))

end RichMarkdown.Source
