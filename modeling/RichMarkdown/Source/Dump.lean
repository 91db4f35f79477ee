import RichMarkdown.Source.Basic
import RichMarkdown.Json.Printer

/-! The JSON form of a source tree: every field of a node in a fixed order, with null for what is
not set. -/
namespace RichMarkdown.Source

def Leaf.fields : Leaf → List (String × Json)
  | text value => [("value", .str value)]
  | inlineCode value => [("value", .str value)]
  | hardBreak => []
  | thematicBreak => []
  | code lang info value =>
    [("lang", .ofText? lang), ("meta", .ofText? info), ("value", .str value)]
  | image url title alt => [("url", .str url), ("title", .ofText? title), ("alt", .ofText? alt)]
  | imageReference identifier label alt =>
    [("identifier", .str identifier), ("label", .ofText? label), ("alt", .ofText? alt)]
  | definition d =>
    [("identifier", .str d.identifier), ("label", .ofText? d.label), ("url", .str d.url),
      ("title", .ofText? d.title)]
  | footnoteReference identifier label =>
    [("identifier", .str identifier), ("label", .ofText? label)]

def Parent.fields : Parent → List (String × Json)
  | heading depth => [("depth", .int depth.val)]
  | list ordered start => [("ordered", .bool ordered), ("start", .ofOption .int start)]
  | link url title => [("url", .str url), ("title", .ofText? title)]
  | linkReference identifier label => [("identifier", .str identifier), ("label", .ofText? label)]
  | footnoteDefinition identifier label =>
    [("identifier", .str identifier), ("label", .ofText? label)]
  | _ => []

mutual

def Content.toJson : Content → Json
  | .leaf l => .obj (("type", .str l.type) :: l.fields)
  | .parent p cs =>
    .obj (("type", .str p.type) :: p.fields ++ [("children", .arr (Content.toJsons cs))])

def Content.toJsons : List Content → List Json
  | [] => []
  | c :: rest => c.toJson :: Content.toJsons rest

end

def Node.toJson : Node → Json
  | .root cs => .obj [("type", .str "root"), ("children", .arr (Content.toJsons cs))]
  | .content c => c.toJson

def Node.dump (n : Node) : String :=
  n.toJson.compact

end RichMarkdown.Source
