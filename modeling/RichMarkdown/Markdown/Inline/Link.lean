import RichMarkdown.Markdown.Inline.Text

/-! Labels in brackets, and what links and images point to. -/
namespace RichMarkdown.Markdown.InlineText

/-- Finds the bracket that closes a label of which the opening one has been passed. `skip` gives
the end of what starts at a place, so that brackets inside other content do not count. Links in
the label may be forbidden. -/
def labelEnd? (t : InlineText) (skip : Nat → Scan Nat) (linksAllowed : Bool) (stop pos : Nat) :
    Scan (Option Nat) :=
  go (stop - pos) 1 pos
where
  go : Nat → Nat → Nat → Scan (Option Nat)
    | 0, _, _ => return none
    | left + 1, level, pos => do
      if stop ≤ pos then return none
      let c := t.charAt pos
      if c = ']' && level = 1 then return some pos
      let next ← skip pos
      if c = ']' then go left (level - 1) next
      else if c = '[' then
        if next = pos + 1 then go left (level + 1) next
        else if linksAllowed then go left level next
        else return none
      else go left level next

inductive Resource where
  | found (target : Target) (next : Nat)
  | broken (next : Nat)
  | unfinished

def isGap (c : Char) : Bool :=
  Text.isIndent c || c = '\n'

/-- Reads a destination and a title up to the closing parenthesis. A destination that must not be
linked to is not read. A title has to stand apart from what is before it. -/
def resource (t : InlineText) (pos stop : Nat) : Resource :=
  let start := t.runEnd isGap stop pos
  if stop ≤ start then .unfinished
  else
    let (url, afterUrl) : String × Nat := match destination? (t.slice start stop) with
      | some (address, after) => match allowedUrl? address with
        | some url => (url, stop - after.length)
        | none => ("", start)
      | none => ("", start)
    let gapEnd := t.runEnd isGap stop afterUrl
    let titled := if afterUrl < gapEnd && gapEnd < stop then title? (t.slice gapEnd stop) else none
    let (title, last) : String × Nat := match titled with
      | some (title, after) => (title, t.runEnd isGap stop (stop - after.length))
      | none => ("", gapEnd)
    if last < stop && t.charAt last = ')' then .found ⟨url, title⟩ (last + 1) else .broken (last + 1)

structure Reference where
  target : Target
  label : Option String

def reference? (t : InlineText) (skip : Nat → Scan Nat) (first last second stop : Nat) :
    Scan (Option (Reference × Nat)) := do
  if t.targets.isEmpty then return none
  let secondEnd? ← if second < stop && t.charAt second = '[' then
      t.labelEnd? skip true stop (second + 1)
    else pure none
  let (label, next) := match secondEnd? with
    | some n => (t.slice (second + 1) n, n + 1)
    | none => ([], last + 1)
  let label := matchLabel (if label.isEmpty then t.slice first last else label)
  return (Entries.get? label t.targets).map fun target => (⟨target, some label⟩, next)

def linkTarget? (t : InlineText) (skip : Nat → Scan Nat) (first last stop : Nat) :
    Scan (Option (Reference × Nat)) :=
  if last + 1 < stop && t.charAt (last + 1) = '(' then
    match t.resource (last + 2) stop with
    | .found target next => return some (⟨target, none⟩, next)
    | .broken next => t.reference? skip first last next stop
    | .unfinished => return none
  else t.reference? skip first last (last + 1) stop

def imageTarget? (t : InlineText) (skip : Nat → Scan Nat) (first last stop : Nat) :
    Scan (Option (Reference × Nat)) :=
  if last + 1 < stop && t.charAt (last + 1) = '(' then
    match t.resource (last + 2) stop with
    | .found target next => return some (⟨target, none⟩, next)
    | _ => return none
  else t.reference? skip first last (last + 1) stop

end RichMarkdown.Markdown.InlineText
