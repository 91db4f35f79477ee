import RichMarkdown.Document.Basic

/-! The JSON forms of a document: the payload for the editor, without what is not set, and the
full form, with null in its place. Both leave out the attributes of a node that are null. -/
namespace RichMarkdown

/-- Attributes with a value. Null within a value stays. -/
def presentAttrs (attrs : List (String × Json)) : List (String × Json) :=
  attrs.filter fun a => !a.2.isNull

def optionalField {α : Type} (name : String) (f : α → Json) : Option α → List (String × Json)
  | some a => [(name, f a)]
  | none => []

def Mark.payload (m : Mark) : Json :=
  .obj (("type", .str m.type) :: optionalField "attrs" .obj m.attrs)

def Mark.full (m : Mark) : Json :=
  .obj [("type", .str m.type), ("attrs", .ofOption .obj m.attrs)]

namespace DocNode

mutual

def payload : DocNode → Json
  | ⟨type, attrs, content, marks, text⟩ =>
    let inner : List (String × Json) := match content with
      | some ds => [("content", .arr (payloads ds))]
      | none => []
    .obj (("type", .str type) ::
      optionalField "attrs" (fun as => .obj (presentAttrs as)) attrs ++ inner ++
      optionalField "marks" (fun ms => .arr (ms.map Mark.payload)) marks ++
      optionalField "text" .str text)

def payloads : List DocNode → List Json
  | [] => []
  | d :: rest => d.payload :: payloads rest

end

mutual

def full : DocNode → Json
  | ⟨type, attrs, content, marks, text⟩ =>
    let inner : Json := match content with
      | some ds => .arr (fulls ds)
      | none => .null
    .obj [("type", .str type),
      ("attrs", .ofOption (fun as => .obj (presentAttrs as)) attrs),
      ("content", inner),
      ("marks", .ofOption (fun ms => .arr (ms.map Mark.full)) marks),
      ("text", .ofText? text)]

def fulls : List DocNode → List Json
  | [] => []
  | d :: rest => d.full :: fulls rest

end

end DocNode

end RichMarkdown
