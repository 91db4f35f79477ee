import RichMarkdown.Json.Basic
import RichMarkdown.Text.Numeral

/-! Checking JSON values against what a field may hold. A check reports everything that is wrong
with a value, in the order of its fields and items. -/
namespace RichMarkdown

inductive PathStep where
  | key (name : String)
  | index (n : Nat)
  deriving DecidableEq

inductive Fault where
  | missing
  | notText
  | notList
  | notDictionary
  /-- Not an object, where a source node is expected. -/
  | notNode
  /-- Not an object, where a document node or a mark is expected. -/
  | notModel
  | kindMissing
  | kindUnknown
  | notFlag
  | unreadableFlag
  | notNumber
  | unreadableNumber
  | fractionalNumber
  | infiniteNumber
  | oversizedNumber
  | notAlternative
  | rejected (message : String)
  deriving DecidableEq

def Fault.code : Fault → String
  | missing => "missing"
  | notText => "string_type"
  | notList => "list_type"
  | notDictionary => "dict_type"
  | notNode => "model_attributes_type"
  | notModel => "model_type"
  | kindMissing => "union_tag_not_found"
  | kindUnknown => "union_tag_invalid"
  | notFlag => "bool_type"
  | unreadableFlag => "bool_parsing"
  | notNumber => "int_type"
  | unreadableNumber => "int_parsing"
  | fractionalNumber => "int_from_float"
  | infiniteNumber => "finite_number"
  | oversizedNumber => "int_parsing_size"
  | notAlternative => "literal_error"
  | rejected _ => "value_error"

structure Issue where
  path : List PathStep
  fault : Fault
  deriving DecidableEq

structure Invalid where
  title : String
  issues : List Issue
  deriving DecidableEq

/-- A checked value, or all its issues. -/
abbrev Check (α : Type) := Except (List Issue) α

namespace Check

variable {α β γ : Type}

def fail (fault : Fault) : Check α :=
  .error [⟨[], fault⟩]

def under (step : PathStep) : Check α → Check α
  | .ok a => .ok a
  | .error issues => .error (issues.map fun i => { i with path := step :: i.path })

/-- Two checks, of which the issues of both are reported. -/
def map2 (f : α → β → γ) : Check α → Check β → Check γ
  | .ok a, .ok b => .ok (f a b)
  | .ok _, .error es => .error es
  | .error es, .ok _ => .error es
  | .error es, .error fs => .error (es ++ fs)

def app (f : Check (α → β)) (a : Check α) : Check β :=
  map2 (fun g x => g x) f a

def titled (title : String) : Check α → Except Invalid α
  | .ok a => .ok a
  | .error issues => .error ⟨title, issues⟩

def items (check : Json → Check α) (n : Nat) : List Json → Check (List α)
  | [] => .ok []
  | j :: rest => map2 List.cons (under (.index n) (check j)) (items check (n + 1) rest)

def list (check : Json → Check α) : Json → Check (List α)
  | .arr js => items check 0 js
  | _ => fail .notList

def optional (check : Json → Check α) : Json → Check (Option α)
  | .null => .ok none
  | j => (check j).map some

def required (name : String) (check : Json → Check α) (fields : List (String × Json)) : Check α :=
  under (.key name) (match Entries.get? name fields with
    | some j => check j
    | none => fail .missing)

def withDefault (name : String) (check : Json → Check α) (default : α)
    (fields : List (String × Json)) : Check α :=
  match Entries.get? name fields with
  | some j => under (.key name) (check j)
  | none => .ok default

def nullable (name : String) (check : Json → Check α) (fields : List (String × Json)) :
    Check (Option α) :=
  withDefault name (optional check) none fields

def text : Json → Check String
  | .str s => .ok s
  | _ => fail .notText

def flagWords : List (String × Bool) := [
  ("0", false), ("off", false), ("f", false), ("false", false), ("n", false), ("no", false),
  ("1", true), ("on", true), ("t", true), ("true", true), ("y", true), ("yes", true)]

def flagOfNumber (n : Int) : Check Bool :=
  if n = 0 then .ok false else if n = 1 then .ok true else fail .unreadableFlag

/-- The largest size of a number that was written with a fraction or an exponent and is read as a
whole one. -/
def wholeLimit : Int := 9223372036854775808

def whole (d : Decimal) : Check Int :=
  match d.truncate? with
  | none => fail .infiniteNumber
  | some n =>
    if d.hasFraction then fail .fractionalNumber
    else if -wholeLimit < n && n < wholeLimit then .ok n
    else fail .oversizedNumber

/-- A flag: a boolean, the numbers 0 and 1, or a word for yes or no in any case. -/
def flag : Json → Check Bool
  | .bool b => .ok b
  | .int n => flagOfNumber n
  | .decimal d =>
    match whole d with
    | .ok n => flagOfNumber n
    | .error _ => fail .notFlag
  | .str s =>
    match flagWords.lookup s.toLower with
    | some b => .ok b
    | none => fail .unreadableFlag
  | _ => fail .notFlag

/-- A whole number of any size, also as a boolean, a decimal without fraction or a text. -/
def number : Json → Check Int
  | .int n => .ok n
  | .bool b => .ok (if b then 1 else 0)
  | .decimal d => whole d
  | .str s =>
    match Text.settingNumber? s with
    | some n => .ok n
    | none => fail .unreadableNumber
  | _ => fail .notNumber

def dictionary : Json → Check (List (String × Json))
  | .obj fields => .ok fields
  | _ => fail .notDictionary

end Check

end RichMarkdown
