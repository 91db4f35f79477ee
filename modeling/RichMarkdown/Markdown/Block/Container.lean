import RichMarkdown.Markdown.Block.Frame

/-! What is left of the lines of a quote, a list item or a footnote for the blocks inside. -/
namespace RichMarkdown.Markdown

/-- The line after a mark that has been taken from the start of its content, and the column that
the mark reaches. One blank after the mark belongs to it; half a tab may be left. -/
def Line.afterQuoteMark (l : Line) : Line :=
  let rest := l.content.drop 1
  let column : Int := l.indent + 1
  let (rest, start, halfTab, blank) : List Char × Int × Nat × Nat := match rest with
    | ' ' :: r => (r, column + 1, 0, 1)
    | '\t' :: r =>
      if (l.offset + column) % tabWidth = 3 then (r, column + 1, 0, 1)
      else ('\t' :: r, column, 1, 1)
    | r => (r, column, 0, 0)
  let blanks := rest.takeWhile Text.isIndent
  { text := rest
    shift := blanks.length
    indent := (reach (l.offset + halfTab) start.toNat blanks : Int) - start
    offset := (l.indent + 1).toNat + blank }

/-- The line after a list marker, with the column that its content reaches, and the column that
the following lines of the item have to reach. -/
def Line.afterListMarker (l : Line) (size : Nat) : Line × Int :=
  let rest := l.content.drop size
  let blanks := rest.takeWhile Text.isIndent
  let start := l.indent + size
  let column : Int := reach l.offset start.toNat blanks
  let width := if blanks.length = rest.length then 1 else column - start
  let width := if 4 < width then 1 else width
  ({ l with shift := l.shift + size + blanks.length, indent := column }, start + width)

def Line.afterNoteLabel (l : Line) (rest : List Char) (indent : Int) : Line :=
  let blanks := rest.takeWhile Text.isIndent
  let start := l.indent + (l.content.length - rest.length : Nat)
  let column := (reach 0 start.toNat blanks : Int) - start
  { l with
    text := rest
    shift := blanks.length
    indent := if column < indent then column + indent else column }

namespace Frame

structure QuoteLines where
  stop : Nat
  lines : Array Line
  interrupted : Bool

/-- Collects the lines of a quote. A line without mark goes on with the last paragraph unless an
empty line stands before it or another block begins; from then on it can do nothing else. -/
def quoteLines (f : Frame) (first last : Nat) : QuoteLines :=
  go (last - first) first false f.lines
where
  go : Nat → Nat → Bool → Array Line → QuoteLines
    | 0, n, _, lines => ⟨n, lines, false⟩
    | left + 1, n, afterEmpty, lines =>
      let l := f.line n
      if l.isEmpty then ⟨n, lines, false⟩
      else if l.content.head? == some '>' && (n == first || !f.isOutdented n) then
        let inner := l.afterQuoteMark
        go left (n + 1) inner.isEmpty (lines.setIfInBounds n inner)
      else if afterEmpty then ⟨n, lines, false⟩
      else if f.interruptsQuote n then
        ⟨n, lines.setIfInBounds n { l with indent := l.indent - f.indent }, true⟩
      else go left (n + 1) false (lines.setIfInBounds n { l with indent := -1 })

def inQuote (f : Frame) (q : QuoteLines) : Frame :=
  { f with lines := q.lines, limit := if q.interrupted then q.stop else f.limit, indent := 0 }

def inItem (f : Frame) (n : Nat) (inner : Line) (indent : Int) : Frame :=
  { f with lines := f.lines.setIfInBounds n inner, indent, listIndent := some f.indent }

def noteIndent : Int := 4

def inNote (f : Frame) (n : Nat) (rest : List Char) : Frame :=
  let indent := f.indent + noteIndent
  { f with
    lines := f.lines.setIfInBounds n ((f.line n).afterNoteLabel rest indent)
    indent }

end Frame

end RichMarkdown.Markdown
