import RichMarkdown.Text.Space

/-! The lines of a text, as the blocks around them leave them. -/
namespace RichMarkdown.Markdown

structure Line where
  /-- The characters after the marks of the blocks around the line. -/
  text : List Char
  /-- How many characters at the start belong to the indent. -/
  shift : Nat
  /-- The column at which the content starts, counted from where `text` starts. A negative one
  marks a line that can only continue a paragraph. -/
  indent : Int
  /-- The column at which `text` starts, which decides how far a tab reaches. -/
  offset : Nat

def tabWidth : Nat := 4

def advance (offset column : Nat) (c : Char) : Nat :=
  if c = '\t' then column + (tabWidth - (column + offset) % tabWidth) else column + 1

def reach (offset column : Nat) (blanks : List Char) : Nat :=
  blanks.foldl (advance offset) column

namespace Line

def of (text : List Char) : Line :=
  let blanks := text.takeWhile Text.isIndent
  { text, shift := blanks.length, indent := reach 0 0 blanks, offset := 0 }

def empty : Line := ⟨[], 0, 0, 0⟩

def content (l : Line) : List Char :=
  l.text.drop l.shift

def isEmpty (l : Line) : Bool :=
  l.content.isEmpty

/-- Drops so many columns from the start of a text, of which the first `shift` characters count
as an indent whatever they are. Of a tab that reaches further, blanks are left. -/
def dropColumns (columns : Int) (offset : Nat) : (shift column : Nat) → List Char → List Char
  | _, column, [] => List.replicate (column - columns).toNat ' '
  | shift, column, c :: rest =>
    if columns ≤ column then List.replicate (column - columns).toNat ' ' ++ c :: rest
    else if Text.isIndent c || 0 < shift then
      dropColumns columns offset (shift - 1)
        (if c = '\t' then advance offset column c else column + 1) rest
    else c :: rest

def cut (columns : Int) (l : Line) : List Char :=
  dropColumns columns l.offset l.shift 0 l.text

end Line

def normalizeText : List Char → List Char
  | '\r' :: '\n' :: rest => '\n' :: normalizeText rest
  | '\r' :: rest => '\n' :: normalizeText rest
  | c :: rest => (if c.toNat = 0 then '\uFFFD' else c) :: normalizeText rest
  | [] => []

def splitNewlines : List Char → List (List Char)
  | [] => [[]]
  | c :: rest =>
    if c = '\n' then [] :: splitNewlines rest
    else match splitNewlines rest with
      | piece :: pieces => (c :: piece) :: pieces
      | [] => [[c]]

/-- The lines of a normalized text. What follows the last newline is a line unless it is blank. -/
def linesOf (text : List Char) : List Line :=
  let pieces := splitNewlines text
  let last := pieces.getLast?.getD []
  (if last.all Text.isIndent then pieces.dropLast else pieces).map .of

def cutLines (columns : Int) (ls : List Line) : List Char :=
  ['\n'].intercalate (ls.map (·.cut columns))

end RichMarkdown.Markdown
