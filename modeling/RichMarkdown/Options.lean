import RichMarkdown.Validation
import RichMarkdown.Json.Reader
import RichMarkdown.Text.Case

/-! The options of a conversion. A value given explicitly is taken before one from the
environment, and that before the default. -/
namespace RichMarkdown

structure Options where
  ignores : List String
  cascade : Bool
  maxDepth : Option Int
  deriving DecidableEq

inductive OptionsError where
  | unreadableSetting
  | invalid (i : Invalid)
  deriving DecidableEq

namespace Options

def defaultIgnores : List String :=
  ["footnoteDefinition", "footnoteReference", "definition", "linkReference"]

def default : Options :=
  ⟨defaultIgnores, true, none⟩

def environmentStem : String := "mdprose_"

def findName {α : Type} (name : String) (pairs : List (String × α)) : Option α :=
  (pairs.reverse.find? fun p => Text.lower p.1.toList == name.toList).map (·.2)

/-- The value under exactly this name, or else under the name in other case. -/
def given? (name : String) (options : List (String × Json)) : Option Json :=
  match Entries.get? name options with
  | some j => some j
  | none => findName name options

def setting? (name : String) (environment : List (String × String)) : Option String :=
  findName (environmentStem ++ name) environment

/-- The list of types in the environment. Null counts as not set. -/
def ignoresSetting (environment : List (String × String)) : Except OptionsError (Option Json) :=
  match setting? "ignores" environment with
  | none => .ok none
  | some s => match Json.read? s with
    | none => .error .unreadableSetting
    | some .null => .ok none
    | some j => .ok (some j)

/-- A list of types. An empty one means the default. -/
def checkIgnores (j : Json) : Check (List String) :=
  (Check.list Check.text j).map fun ss => if ss.isEmpty then defaultIgnores else ss

def depthMessage : String := "max_depth must be a positive integer"

def checkMaxDepth (j : Json) : Check (Option Int) :=
  match Check.optional Check.number j with
  | .ok (some n) => if n < 1 then .fail (.rejected depthMessage) else .ok (some n)
  | other => other

def pick {α : Type} (name : String) (check : Json → Check α) (default : α)
    (explicit fromSetting : Option Json) : Check α :=
  match explicit.or fromSetting with
  | some j => .under (.key name) (check j)
  | none => .ok default

def build (environment : List (String × String)) (options : List (String × Json)) :
    Except OptionsError Options := do
  let ignores ← ignoresSetting environment
  let cascade := (setting? "cascade" environment).map Json.str
  let maxDepth := (setting? "max_depth" environment).map Json.str
  let checked := (Check.map2 Options.mk
    (pick "ignores" checkIgnores defaultIgnores (given? "ignores" options) ignores)
    (pick "cascade" Check.flag true (given? "cascade" options) cascade)).app
    (pick "max_depth" checkMaxDepth none (given? "max_depth" options) maxDepth)
  (checked.titled "ProcessOptions").mapError .invalid

end Options

end RichMarkdown
