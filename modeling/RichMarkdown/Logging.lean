import RichMarkdown.Json.Display
import RichMarkdown.Process.Session

/-! Log records, their levels, and which of them reach a sink. -/
namespace RichMarkdown.Logging

structure Record where
  level : Int
  message : String

def levelNames : List (Int × String) :=
  [(10, "DEBUG"), (20, "INFO"), (30, "WARNING"), (40, "ERROR"), (50, "CRITICAL")]

def levelName (level : Int) : String :=
  (levelNames.lookup level).getD ("Level " ++ toString level)

def thresholds : List (String × Int) :=
  [("TRACE", 5), ("DEBUG", 10), ("INFO", 20), ("SUCCESS", 25), ("WARNING", 30), ("ERROR", 40),
    ("CRITICAL", 50)]

def defaultThreshold : String := "INFO"

structure UnknownLevel where
  name : String

def UnknownLevel.message (u : UnknownLevel) : String :=
  "Level '" ++ u.name ++ "' does not exist"

def threshold (name : String) : Except UnknownLevel Int :=
  match thresholds.lookup name with
  | some level => .ok level
  | none => .error ⟨name⟩

/-- The records that pass a threshold. Level 0 stands for no level and never passes. -/
def shown (threshold : Int) (records : List Record) : List Record :=
  records.filter fun r => threshold ≤ r.level && r.level ≠ 0

def fill : List Char → List Json → List Char
  | '%' :: '%' :: rest, args => '%' :: fill rest args
  | '%' :: 's' :: rest, a :: args => a.asText.toList ++ fill rest args
  | '%' :: 'd' :: rest, a :: args => wholeText a ++ fill rest args
  | c :: rest, args => c :: fill rest args
  | [], _ => []
where
  wholeText : Json → List Char
    | .decimal d => (toString (d.truncate?.getD 0)).toList
    | .bool b => if b then ['1'] else ['0']
    | j => j.asText.toList

def format (message : String) (args : List Json) : String :=
  if args.isEmpty then message else String.ofList (fill message.toList args)

inductive Event where
  | record (level : Int) (message : String) (args : List Json)
  | conversion (text : String)

def conversionLevel : Int := 10

def Event.records : Event → Except ConvertError (List Record)
  | record level message args => .ok [⟨level, format message args⟩]
  | conversion text =>
    match RichMarkdown.parse text { options := .default, registry := .default } with
    | (.ok _, p) => .ok (p.log.map fun m => ⟨conversionLevel, m⟩)
    | (.error e, _) => .error e

def paddedName (level : Int) : String :=
  let name := levelName level
  name ++ String.ofList (List.replicate (8 - name.length) ' ')

end RichMarkdown.Logging
