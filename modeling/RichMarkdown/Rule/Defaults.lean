import RichMarkdown.Rule.Registry
import RichMarkdown.Rule.Conversions

/-! The rules for a rich-text editor. -/
namespace RichMarkdown.Registry

def nodeRule (type : String) (convert : Option Conversion := none) : Rule :=
  { kind := .node, claims := [type], convert }

def markRule (type : String) (convert : Option Conversion := none) : Rule :=
  { kind := .mark, claims := [type], convert }

def defaultRules : Entries Rule := [
  ("doc", nodeRule "root"),
  ("paragraph", nodeRule "paragraph"),
  ("blockquote", nodeRule "blockquote"),
  ("horizontalRule", nodeRule "thematicBreak"),
  ("heading", nodeRule "heading" (some Conversion.heading)),
  ("codeBlock", nodeRule "code" (some Conversion.codeBlock)),
  ("list", nodeRule "list" (some Conversion.list)),
  ("listItem", nodeRule "listItem"),
  ("text", nodeRule "text" (some Conversion.text)),
  ("image", nodeRule "image" (some Conversion.image)),
  ("imageReference", nodeRule "imageReference" (some Conversion.imageReference)),
  ("hardBreak", nodeRule "break"),
  ("table", nodeRule "table"),
  ("tableRow", nodeRule "tableRow"),
  ("tableCell", nodeRule "tableCell"),
  ("link", markRule "link" (some Conversion.link)),
  ("italic", markRule "emphasis"),
  ("strong", markRule "strong"),
  ("code", markRule "inlineCode" (some Conversion.inlineCode)),
  ("strike", markRule "delete")]

def default : Registry :=
  { rules := defaultRules }

end RichMarkdown.Registry
