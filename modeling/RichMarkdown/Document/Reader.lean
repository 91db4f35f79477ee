import RichMarkdown.Document.Basic
import RichMarkdown.Validation

/-! Reading documents and marks out of JSON. -/
namespace RichMarkdown

def checkMark : Json → Check Mark
  | .obj fields =>
    .map2 Mark.mk (.required "type" .text fields) (.nullable "attrs" .dictionary fields)
  | _ => .fail .notModel

def Mark.read (j : Json) : Except Invalid Mark :=
  (checkMark j).titled "Mark"

namespace DocNode

mutual

def check : Json → Check DocNode
  | .obj fields =>
    ((((Check.map2 DocNode.mk (.required "type" .text fields)
      (.nullable "attrs" .dictionary fields)).app
      (checkContent fields)).app
      (.nullable "marks" (.list checkMark) fields)).app
      (.nullable "text" .text fields))
  | _ => .fail .notModel

def checkContent : List (String × Json) → Check (Option (List DocNode))
  | [] => .ok none
  | (name, j) :: rest =>
    if name = "content" then .under (.key name) (checkList j) else checkContent rest

def checkList : Json → Check (Option (List DocNode))
  | .null => .ok none
  | .arr js => (checkItems 0 js).map some
  | _ => .fail .notList

def checkItems (n : Nat) : List Json → Check (List DocNode)
  | [] => .ok []
  | j :: rest => .map2 List.cons (.under (.index n) (check j)) (checkItems (n + 1) rest)

end

def read (j : Json) : Except Invalid DocNode :=
  (check j).titled "DocNode"

end DocNode

end RichMarkdown
