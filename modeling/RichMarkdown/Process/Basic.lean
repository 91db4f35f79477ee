import RichMarkdown.Rule.Defaults
import RichMarkdown.Options

/-! A conversion process: options, rules, and the state that conversions read and change. -/
namespace RichMarkdown

structure Process where
  options : Options
  registry : Registry
  sources : Entries Source.Definition := []
  /-- How many nodes are being converted around the current one. -/
  depth : Int := 0
  log : List String := []

/-- A step of a conversion. What it changes in the process stays changed when it fails. -/
abbrev ConvertM := ExceptT ConvertError (StateM Process)

namespace ConvertM

def log (message : String) : ConvertM Unit :=
  modify fun p => { p with log := p.log ++ [message] }

def findRule (type : String) : ConvertM (Option (String × Rule)) := fun p =>
  let (result, registry) := p.registry.find type
  (result, { p with registry })

/-- Runs a step one level deeper. The level is left again however the step ends. -/
def nested {α : Type} (step : ConvertM α) : ConvertM α := fun p =>
  let (result, q) := step.run { p with depth := p.depth + 1 }
  (result, { q with depth := q.depth - 1 })

def outcome {α : Type} (step : ConvertM α) : ConvertM (Except ConvertError α) := fun p =>
  let (result, q) := step.run p
  (.ok result, q)

def sequence {α : Type} : List (ConvertM α) → ConvertM (List α)
  | [] => pure []
  | step :: rest => do
    let a ← step
    let as ← sequence rest
    pure (a :: as)

end ConvertM

end RichMarkdown
