import RichMarkdown.Entries
import RichMarkdown.Json.Decimal

/-! JSON values. Whole numbers are kept apart from those written with a fraction or an exponent,
and the fields of an object keep their order. -/
namespace RichMarkdown

inductive Json where
  | null
  | bool (value : Bool)
  | int (value : Int)
  | decimal (value : Decimal)
  | str (value : String)
  | arr (items : List Json)
  | obj (fields : List (String × Json))
  deriving Inhabited

namespace Json

def field? (name : String) : Json → Option Json
  | obj fields => Entries.get? name fields
  | _ => none

def isNull : Json → Bool
  | null => true
  | _ => false

def ofOption {α : Type} (f : α → Json) : Option α → Json
  | some a => f a
  | none => null

def ofText? (s : Option String) : Json :=
  ofOption str s

def ofTexts (ss : List String) : Json :=
  arr (ss.map str)

end Json

end RichMarkdown
