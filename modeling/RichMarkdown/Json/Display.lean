import RichMarkdown.Json.Basic
import RichMarkdown.Text.Quoted

/-! JSON values as they appear within a text, when one stands where a text is expected. -/
namespace RichMarkdown.Json

def kindName : Json → String
  | null => "NoneType"
  | bool _ => "bool"
  | int _ => "int"
  | decimal _ => "float"
  | str _ => "str"
  | arr _ => "list"
  | obj _ => "dict"

mutual

/-- The form of a value inside a list or an object, where texts are quoted. A whole number is
written at any size: the runtime's limit of 4300 digits is left out. -/
def nestedText : Json → String
  | null => "None"
  | bool b => if b then "True" else "False"
  | int n => toString n
  | decimal d => String.ofList d.chars
  | str s => Text.quoted s
  | arr items => "[" ++ nestedItems items ++ "]"
  | obj fields => "\x7b" ++ nestedFields fields ++ "\x7d"

def nestedItems : List Json → String
  | [] => ""
  | [j] => nestedText j
  | j :: k :: rest => nestedText j ++ ", " ++ nestedItems (k :: rest)

def nestedFields : List (String × Json) → String
  | [] => ""
  | [(name, j)] => Text.quoted name ++ ": " ++ nestedText j
  | (name, j) :: f :: rest =>
    Text.quoted name ++ ": " ++ nestedText j ++ ", " ++ nestedFields (f :: rest)

end

def asText : Json → String
  | str s => s
  | j => nestedText j

def isTruthy : Json → Bool
  | null => false
  | bool b => b
  | int n => n != 0
  | decimal d => d.digits != 0
  | str s => !s.isEmpty
  | arr items => !items.isEmpty
  | obj fields => !fields.isEmpty

end RichMarkdown.Json
