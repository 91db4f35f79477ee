import RichMarkdown.Markdown.Inline.Link

/-! What inline content is made of, apart from delimiters: each kind of item, and how to tell where
it ends. -/
namespace RichMarkdown.Markdown

/-- An item of inline content. Content that is to be read in its turn is given by the places
between which it lies, or by its text where it is read on its own. -/
inductive Item where
  | text (content : List Char)
  | special (content : List Char)
  | newline
  | hardBreak
  | code (content : List Char)
  | link (reference : InlineText.Reference) (first last : Nat)
  | image (reference : InlineText.Reference) (content : List Char)
  | autolink (url text : String)
  | noteReference (label : String)
  | inlineNote (content : List Char)

def isItemMark (c : Char) : Bool :=
  "\n!#$%&*+-:<=>@[\\]^_\x60\x7b\x7d~".toList.contains c

/-- The content of a code span. One blank at each end is dropped if there is more than white
space. -/
def codeContent (s : List Char) : List Char :=
  let s := s.map fun c => if c = '\n' then ' ' else c
  if s.head? == some ' ' && s.getLast? == some ' ' && !s.all Text.isSpace then
    (s.drop 1).dropLast
  else s

def dropFinalNewline (s : List Char) : List Char :=
  if s.getLast? == some '\n' then s.dropLast else s

/-- Whether a text is an absolute address: a scheme of 2 to 32 characters, and after the colon no
blanks, controls or angle brackets. -/
def isAddress (s : List Char) : Bool :=
  let s := dropFinalNewline s
  let scheme := s.takeWhile (· ≠ ':')
  match s.drop scheme.length with
  | ':' :: rest =>
    scheme.head?.any Char.isAlpha && 2 ≤ scheme.length && scheme.length ≤ 32 &&
      scheme.all (fun c => c.isAlphanum || c = '+' || c = '.' || c = '-') &&
      rest.all fun c => c ≠ '<' && c ≠ '>' && 0x20 < c.toNat
  | _ => false

def isMailChar (c : Char) : Bool :=
  c.isAlphanum || ".!#$%&'*+/=?^_\x60\x7b|\x7d~-".toList.contains c

def isMailLabel (s : List Char) : Bool :=
  s.length ≤ Url.labelLimit && s.head?.any Char.isAlphanum && s.getLast?.any Char.isAlphanum &&
    s.all fun c => c.isAlphanum || c = '-'

def isMailAddress (s : List Char) : Bool :=
  let s := dropFinalNewline s
  let name := s.takeWhile (· ≠ '@')
  match s.drop name.length with
  | '@' :: host => !name.isEmpty && name.all isMailChar && (Url.splitOn '.' host).all isMailLabel
  | _ => false

namespace InlineText

def closingRun? (t : InlineText) (size stop pos : Nat) : Scan (Option (Nat × Nat)) :=
  go (t.chars.size - pos) pos
where
  go : Nat → Nat → Scan (Option (Nat × Nat))
    | 0, _ => do
      modify fun a => { a with complete := true }
      return none
    | left + 1, pos => do
      if t.charAt pos ≠ '\x60' then go left (pos + 1)
      else
        let next := t.runEnd (· = '\x60') stop (pos + 1)
        if next - pos = size then return some (pos, next)
        modify fun a =>
          { a with runs := (next - pos, pos) :: a.runs.filter (·.1 ≠ next - pos) }
        go left next

def code (t : InlineText) (pos stop : Nat) : Scan (Item × Nat) := do
  let first := t.runEnd (· = '\x60') stop (pos + 1)
  let size := first - pos
  let literal := (Item.text (List.replicate size '\x60'), first)
  let a ← get
  if a.complete && (a.runs.lookup size).all (· ≤ pos) then return literal
  match ← t.closingRun? size stop first with
  | some (last, next) => return (.code (codeContent (t.slice first last)), next)
  | none => return literal

def escape? (t : InlineText) (pos stop : Nat) : Option (Item × Nat) :=
  if stop ≤ pos + 1 then none
  else
    let c := t.charAt (pos + 1)
    if c = '\n' then some (.hardBreak, t.runEnd Text.isIndent stop (pos + 2))
    else if Text.isAsciiPunctuation c then some (.special [c], pos + 2)
    else some (.special ['\\', c], pos + 2)

def entity? (t : InlineText) (pos stop : Nat) : Option (Item × Nat) := do
  let (name, _) ← takeReference? (t.slice (pos + 1) (min stop (pos + nameLimit + 2)))
  let content ← if name.head? == some '#' then
      (numericCode? 7 6 name).map fun n => [if isNamedCode n then Char.ofNat n else '\uFFFD']
    else (Text.entity? (String.ofList name)).map String.toList
  return (.special content, pos + name.length + 2)

def autolink? (t : InlineText) (pos stop : Nat) : Option (Item × Nat) := do
  let last := t.runEnd (fun c => c ≠ '<' && c ≠ '>') stop (pos + 1)
  if stop ≤ last || t.charAt last = '<' then none
  let content := t.slice (pos + 1) last
  let text := String.ofList content
  let url ← if isAddress content then allowedUrl? text
    else if isMailAddress content then allowedUrl? ("mailto:" ++ text)
    else none
  return (.autolink url (Url.display text), last + 1)

def noteReference? (t : InlineText) (pos stop : Nat) : Option (Item × Nat) :=
  let last := t.runEnd (fun c => c ≠ ' ' && c ≠ '\n' && c ≠ ']') stop (pos + 2)
  let label := String.ofList (t.slice (pos + 2) last)
  if t.charAt (pos + 1) = '^' && last < stop && t.charAt last = ']' && !label.isEmpty &&
      t.notes.contains label then
    some (.noteReference label, last + 1)
  else none

def link? (t : InlineText) (skip : Nat → Scan Nat) (pos stop : Nat) :
    Scan (Option (Item × Nat)) := do
  match ← t.labelEnd? skip false stop (pos + 1) with
  | some last =>
    let found ← t.linkTarget? skip (pos + 1) last stop
    return found.map fun (r, next) => (.link r (pos + 1) last, next)
  | none => return none

def image? (t : InlineText) (skip : Nat → Scan Nat) (pos stop : Nat) :
    Scan (Option (Item × Nat)) := do
  if stop ≤ pos + 1 || t.charAt (pos + 1) ≠ '[' then return none
  match ← t.labelEnd? skip true stop (pos + 2) with
  | some last =>
    let found ← t.imageTarget? skip (pos + 2) last stop
    return found.map fun (r, next) => (.image r (t.slice (pos + 2) last), next)
  | none => return none

def inlineNote? (t : InlineText) (skip : Nat → Scan Nat) (pos stop : Nat) :
    Scan (Option (Item × Nat)) := do
  if stop ≤ pos + 2 || t.charAt (pos + 1) ≠ '[' then return none
  let last? ← t.labelEnd? skip true stop (pos + 2)
  return last?.map fun last => (.inlineNote (t.slice (pos + 2) last), last + 1)

def item? (t : InlineText) (skip : Nat → Scan Nat) (pos stop : Nat) :
    Scan (Option (Item × Nat)) := do
  match t.charAt pos with
  | '\n' => return some (.newline, t.runEnd Text.isIndent stop (pos + 1))
  | '\\' => return t.escape? pos stop
  | '\x60' => return some (← t.code pos stop)
  | '[' => match ← t.link? skip pos stop with
    | some found => return some found
    | none => return t.noteReference? pos stop
  | '!' => t.image? skip pos stop
  | '^' => t.inlineNote? skip pos stop
  | '<' => return t.autolink? pos stop
  | '&' => return t.entity? pos stop
  | c =>
    if isItemMark c then return none
    else
      let last := t.runEnd (!isItemMark ·) stop pos
      return some (.text (t.slice pos last), last)

/-- The end of what starts at a place: of an item, or else of one character. Where elements must
not nest deeper, all is passed over. What has been found once is kept. -/
def skip (t : InlineText) (stop : Nat) : (room pos : Nat) → Scan Nat
  | room, pos => do
    match (← get).ends.getD pos none with
    | some next => return next
    | none =>
      let next ← match room with
        | 0 => pure (stop + 1)
        | room + 1 => do
          match ← t.item? (t.skip stop room) pos stop with
          | some (_, next) => pure next
          | none => pure (pos + 1)
      modify fun a => { a with ends := a.ends.setIfInBounds pos (some next) }
      return next

end InlineText

end RichMarkdown.Markdown
