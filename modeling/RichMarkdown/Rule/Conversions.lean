import RichMarkdown.Rule.Script
import RichMarkdown.Source.Fields
import RichMarkdown.Text.Quoted

/-! The conversions of the kinds of nodes that do not follow the usual pattern. Each one reads the
fields that it needs in a fixed order, so that for a node of another kind the first missing field
is the one reported. -/
namespace RichMarkdown.Conversion

open Script

def heading : Conversion := fun node =>
  field node "depth" node.depth? fun depth =>
  children node fun content =>
  done { type := "heading", attrs := some [("level", .int depth.val)], content := some content }

/-- A block of code, which readers of the format expect as a heading with a language. -/
def codeBlock : Conversion := fun node =>
  field node "lang" node.lang? fun lang =>
  field node "value" node.value? fun value =>
  done { type := "heading", attrs := some [("language", .ofText? lang)],
         content := some [.ofText value] }

def list : Conversion := fun node =>
  field node "ordered" node.ordered? fun ordered =>
  children node fun content =>
  done { type := if ordered then "orderedList" else "bulletList", content := some content }

def text : Conversion := fun node =>
  field node "value" node.value? fun value => done (.ofText value)

def image : Conversion := fun node =>
  field node "title" node.title? fun title =>
  field node "alt" node.alt? fun alt =>
  field node "url" node.url? fun url =>
  done { type := "image",
         attrs := some [("title", .ofText? title), ("alt", .ofText? alt), ("src", .str url)] }

def imageReference : Conversion := fun node =>
  field node "identifier" node.identifier? fun identifier =>
  readSources fun sources =>
  match sources.get? identifier with
  | some d =>
    field node "alt" node.alt? fun alt =>
    done { type := "image",
           attrs := some [("title", .ofText? d.title), ("alt", .ofText? alt), ("src", .str d.url)] }
  | none =>
    note ("No definition for image reference " ++ Text.quoted identifier) <|
    field node "alt" node.alt? fun alt =>
    done { type := "image", attrs := some [("title", .null), ("alt", .ofText? alt)] }

def link : Conversion := fun node =>
  field node "url" node.url? fun url =>
  field node "children" node.children? fun cs =>
  let mark : Mark := { type := "link", attrs := some [("href", .str url)] }
  if cs.isEmpty then done ((DocNode.ofText "").applyMark mark)
  else child 0 (bindResult fun d => done (d.applyMark mark))

def inlineCode : Conversion := fun node =>
  field node "value" node.value? fun value =>
  done { type := "text", text := some value, marks := some [{ type := "code" }] }

end RichMarkdown.Conversion
