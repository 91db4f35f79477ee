import RichMarkdown.Markdown.Line
import RichMarkdown.Text.Punctuation
import RichMarkdown.Text.Numeral
import RichMarkdown.Url.Parts

/-! The place where blocks are looked for, and how each kind of block begins. -/
namespace RichMarkdown.Markdown

/-- The lines with what the blocks around leave of them, and the columns of these blocks. -/
structure Frame where
  lines : Array Line
  /-- The lines from here on are out of reach. -/
  limit : Nat
  indent : Int := 0
  /-- The column of the list around the innermost item, if there is one. -/
  listIndent : Option Int := none

structure ListMarker where
  number : Option Nat
  /-- The last character, which is the same for all items of a list. -/
  kind : Char
  size : Nat

namespace Frame

def line (f : Frame) (n : Nat) : Line :=
  f.lines.getD n .empty

def isEmpty (f : Frame) (n : Nat) : Bool :=
  (f.line n).isEmpty

def isCode (f : Frame) (n : Nat) : Bool :=
  f.indent + tabWidth ≤ (f.line n).indent

def isOutdented (f : Frame) (n : Nat) : Bool :=
  (f.line n).indent < f.indent

def skipEmpty (f : Frame) (n : Nat) : Nat :=
  go (f.limit - n) n
where
  go : Nat → Nat → Nat
    | 0, n => n
    | left + 1, n => if f.isEmpty n then go left (n + 1) else n

def range (f : Frame) (first last : Nat) : List Line :=
  (f.lines.extract first last).toList

def fence? (f : Frame) (n : Nat) : Option (Char × Nat × List Char) :=
  match (f.line n).content with
  | c :: rest =>
    let run := (c :: rest).takeWhile (· = c)
    let info := (c :: rest).drop run.length
    let isFence := c = '~' || (c = '\x60' && !info.contains c)
    if f.isCode n || !isFence || run.length < 3 then none
    else some (c, run.length, info)
  | [] => none

def closesFence (f : Frame) (n : Nat) (c : Char) (size : Nat) : Bool :=
  let content := (f.line n).content
  let run := content.takeWhile (· = c)
  !f.isCode n && size ≤ run.length && (content.drop run.length).all Text.isIndent

def startsQuote (f : Frame) (n : Nat) : Bool :=
  !f.isCode n && (f.line n).content.head? == some '>'

def isThematicBreak (f : Frame) (n : Nat) : Bool :=
  match (f.line n).content with
  | c :: rest =>
    !f.isCode n && (c = '*' || c = '-' || c = '_') &&
      rest.all (fun d => d = c || Text.isIndent d) && 3 ≤ (c :: rest).count c
  | [] => false

def numberLimit : Nat := 9

def marker? (content : List Char) : Option ListMarker :=
  let ended (rest : List Char) : Bool := rest.head?.all Text.isIndent
  match content with
  | c :: rest =>
    if c = '*' || c = '-' || c = '+' then
      if ended rest then some ⟨none, c, 1⟩ else none
    else
      let digits := (c :: rest).takeWhile Char.isDigit
      if digits.isEmpty || numberLimit < digits.length then none
      else match (c :: rest).drop digits.length with
        | d :: after =>
          if (d = ')' || d = '.') && ended after then
            some ⟨Text.natural? Text.asciiDigit? digits, d, digits.length + 1⟩
          else none
        | [] => none
  | [] => none

/-- The list marker at the start of a line. A list that interrupts a paragraph starts with 1 and
its first item is not empty. -/
def listMarker? (f : Frame) (n : Nat) (interrupting : Bool) : Option ListMarker := do
  let l := f.line n
  let hanging := match f.listIndent with
    | some column => column + tabWidth ≤ l.indent && l.indent < f.indent
    | none => false
  if f.isCode n || hanging then none
  let m ← marker? l.content
  if interrupting && f.indent ≤ l.indent then
    if m.number.any (· ≠ 1) || (l.content.drop m.size).all Text.isIndent then none
    else some m
  else some m

def noteLabel? (f : Frame) (n : Nat) : Option (List Char × List Char) :=
  match (f.line n).content with
  | '[' :: '^' :: rest =>
    let label := rest.takeWhile fun c => c ≠ ' ' && c ≠ ']'
    match rest.drop label.length with
    | ']' :: ':' :: after => if f.isCode n || label.isEmpty then none else some (label, after)
    | _ => none
  | _ => none

def headingLimit : Nat := 6

/-- The level and the text of a heading that starts with number signs. A run of such signs at the
end is not part of the text if a blank stands before it. -/
def heading? (f : Frame) (n : Nat) : Option (Nat × List Char) :=
  let content := (f.line n).content
  let level := (content.takeWhile (· = '#')).length
  let rest := content.drop level
  if f.isCode n || level = 0 || headingLimit < level || !rest.head?.all Text.isIndent then none
  else
    let trimmed := (rest.reverse.dropWhile Text.isIndent).reverse
    let unsigned := (trimmed.reverse.dropWhile (· = '#')).reverse
    some (level, Text.trimBy Text.isBlank
      (if unsigned.getLast?.any Text.isIndent then unsigned else trimmed))

def splitCells (s : List Char) : List (List Char) :=
  go false s
where
  go (escaped : Bool) : List Char → List (List Char)
    | [] => [[]]
    | c :: rest =>
      if c = '|' && !escaped then [] :: go false rest
      else
        let dropped := c = '\\' && rest.head? == some '|'
        match go (c = '\\') rest with
        | cell :: cells => (if dropped then cell else c :: cell) :: cells
        | [] => [[c]]

def rowCells (content : List Char) : List (List Char) :=
  let cells := splitCells (Text.trimBy Text.isBlank content)
  let cells := match cells with
    | [] :: rest => rest
    | cells => cells
  let cells := match cells.reverse with
    | [] :: rest => rest.reverse
    | _ => cells
  cells.map (Text.trimBy Text.isBlank)

def isColumnMark (cell : List Char) : Bool :=
  let s := if cell.head? == some ':' then cell.drop 1 else cell
  let s := if s.getLast? == some ':' then s.dropLast else s
  !s.isEmpty && s.all (· = '-')

def columnCount? (content : List Char) : Option Nat :=
  match content with
  | c :: d :: _ =>
    let isMark (c : Char) : Bool := c = '|' || c = '-' || c = ':'
    if !isMark c || !content.all (fun e => isMark e || Text.isIndent e) ||
        (c = '-' && Text.isIndent d) then none
    else
      let cells := (Url.splitOn '|' content).map (Text.trimBy Text.isBlank)
      let inner := (cells.drop 1).dropLast
      let marks := cells.filter (!·.isEmpty)
      if inner.all (!·.isEmpty) && marks.all isColumnMark then some marks.length else none
  | _ => none

def tableHead? (f : Frame) (n last : Nat) : Option (List (List Char)) := do
  if last < n + 2 || f.isOutdented (n + 1) || f.isCode (n + 1) then none
  let count ← columnCount? (f.line (n + 1)).content
  let content := (f.line n).content
  if !content.contains '|' || f.isCode n then none
  let cells := rowCells content
  if cells.isEmpty || cells.length ≠ count then none else some cells

def interruptsQuote (f : Frame) (n : Nat) : Bool :=
  (f.fence? n).isSome || f.startsQuote n || f.isThematicBreak n ||
    (f.listMarker? n false).isSome || (f.heading? n).isSome

def interruptsList (f : Frame) (n : Nat) : Bool :=
  (f.fence? n).isSome || f.startsQuote n || f.isThematicBreak n

/-- What ends running text without an empty line. A list is held to be stricter rules if the text
is a paragraph. -/
def interruptsText (f : Frame) (n last : Nat) (paragraph : Bool) : Bool :=
  (f.tableHead? n last).isSome || f.interruptsList n ||
    (f.listMarker? n paragraph).isSome || (f.noteLabel? n).isSome || (f.heading? n).isSome

end Frame

end RichMarkdown.Markdown
