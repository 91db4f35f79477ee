import RichMarkdown.Markdown.Block.Container
import RichMarkdown.Markdown.Block.Reference
import RichMarkdown.Markup.Event

/-! From lines to blocks. The blocks come as a sequence of events; inline content is left as text,
since what it means depends on definitions that may follow. -/
namespace RichMarkdown.Markdown

open Markup (Node)

inductive BlockEvent where
  | opening (node : Node)
  | closing (type : String)
  | leaf (node : Node)
  | inline (content : List Char)

structure Blocks where
  events : Array BlockEvent := #[]
  /-- The first definition of each label. -/
  targets : Targets := []
  notes : List String := []

abbrev BlockM := StateM Blocks

/-- Reads blocks from a line up to another one, and returns the line where it stops. -/
abbrev BlockReader := Frame → (first last : Nat) → BlockM Nat

namespace Blocks

def emit (e : BlockEvent) : BlockM Unit :=
  modify fun b => { b with events := b.events.push e }

def within {α : Type} (node : Node) (step : BlockM α) : BlockM α := do
  emit (.opening node)
  let a ← step
  emit (.closing node.type)
  return a

def emitInline (node : Node) (content : List Char) : BlockM Unit :=
  within node (emit (.inline content))

end Blocks

open Blocks

namespace Frame

def textOf (f : Frame) (first last : Nat) : List Char :=
  Text.trimBy Text.isBlank (cutLines f.indent (f.range first last))

def codeEnd (f : Frame) (n last : Nat) : Nat :=
  go (last - (n + 1)) (n + 1) (n + 1)
where
  go : Nat → Nat → Nat → Nat
    | 0, _, stop => stop
    | left + 1, n, stop =>
      if f.isEmpty n then go left (n + 1) stop
      else if f.isCode n then go left (n + 1) (n + 1)
      else stop

def indentedCode (f : Frame) (n last : Nat) : BlockM Nat := do
  let stop := f.codeEnd n last
  let content := cutLines (f.indent + tabWidth) (f.range n stop) ++ ['\n']
  emit (.leaf { type := "code_block", tag := "code", content := String.ofList content })
  return stop

def fenceEnd (f : Frame) (n last : Nat) (c : Char) (size : Nat) : Nat × Bool :=
  go (last - (n + 1)) (n + 1)
where
  go : Nat → Nat → Nat × Bool
    | 0, n => (n, false)
    | left + 1, n =>
      if !f.isEmpty n && f.isOutdented n then (n, false)
      else if f.closesFence n c size then (n, true)
      else go left (n + 1)

def fencedCode (f : Frame) (n last : Nat) (c : Char) (size : Nat) (info : List Char) :
    BlockM Nat := do
  let (stop, closed) := f.fenceEnd n last c size
  let content := (f.range (n + 1) stop).flatMap fun l => l.cut (f.line n).indent ++ ['\n']
  emit (.leaf { type := "fence", tag := "code", info := String.ofList (unescape info),
                content := String.ofList content })
  return if closed then stop + 1 else stop

def quote (f : Frame) (inner : BlockReader) (n last : Nat) : BlockM Nat := do
  let q := f.quoteLines n last
  within { type := "blockquote", tag := "blockquote" } (inner (f.inQuote q) n q.stop)

/-- The items of a list from a line with a marker on. An item that starts with an empty line and is
followed by another one is empty. -/
def items (f : Frame) (inner : BlockReader) (last : Nat) :
    (bound n : Nat) → (marker : ListMarker) → BlockM Nat
  | 0, n, _ => return n
  | bound + 1, n, marker => do
    let (line, indent) := (f.line n).afterListMarker marker.size
    let next ← within { type := "list_item", tag := "li" } do
      if line.isEmpty && f.isEmpty (n + 1) then return min (n + 2) last
      else inner (f.inItem n line indent) n last
    if last ≤ next || f.isOutdented next || f.isCode next || f.interruptsList next then
      return next
    else match marker? (f.line next).content with
      | some following =>
        if following.number.isSome = marker.number.isSome && following.kind = marker.kind then
          f.items inner last bound next following
        else return next
      | none => return next

def list (f : Frame) (inner : BlockReader) (n last : Nat) (marker : ListMarker) : BlockM Nat :=
  let node : Node := match marker.number with
    | none => { type := "bullet_list", tag := "ul" }
    | some 1 => { type := "ordered_list", tag := "ol" }
    | some start => { type := "ordered_list", tag := "ol", attrs := [("start", .int start)] }
  within node (f.items inner last (last - n) n marker)

def note (f : Frame) (inner : BlockReader) (n last : Nat) (label rest : List Char) :
    BlockM Nat := do
  let label := String.ofList label
  modify fun b => { b with notes := label :: b.notes }
  within { type := "footnote_reference", data := [("label", .str label)] }
    (inner (f.inNote n rest) n last)

/-- Emits a definition. The first one of a label is the one that counts for links. -/
def reference (n : Nat) (r : ReferenceDefinition) : BlockM Nat := do
  let label := matchLabel r.label
  emit (.leaf { type := "definition", data := [
    ("id", .str label), ("title", .str r.target.title), ("url", .str r.target.url),
    ("label", .str (String.ofList r.label))] })
  modify fun b =>
    if b.targets.has label then b else { b with targets := b.targets.put label r.target }
  return n + r.lines

def headingNode (level : Nat) : Node :=
  { type := "heading", tag := "h" ++ toString level }

def heading (n level : Nat) (content : List Char) : BlockM Nat := do
  emitInline (headingNode level) content
  return n + 1

def underline? (f : Frame) (n : Nat) : Option Nat :=
  match (f.line n).content with
  | c :: rest =>
    if !f.isOutdented n && (c = '=' || c = '-') &&
        (rest.dropWhile (· = c)).all Text.isIndent then
      some (if c = '=' then 1 else 2)
    else none
  | [] => none

def underlined? (f : Frame) (n last : Nat) : Option (Nat × Nat) :=
  go (last - (n + 1)) (n + 1)
where
  go : Nat → Nat → Option (Nat × Nat)
    | 0, _ => none
    | left + 1, n =>
      if f.isEmpty n then none
      else if f.isCode n then go left (n + 1)
      else match f.underline? n with
        | some level => some (n, level)
        | none =>
          if (f.line n).indent < 0 || !f.interruptsText n last true then go left (n + 1)
          else none

def underlinedHeading (f : Frame) (n stop level : Nat) : BlockM Nat := do
  emitInline (headingNode level) (f.textOf n stop)
  return stop + 1

def paragraphEnd (f : Frame) (n : Nat) : Nat :=
  go (f.limit - (n + 1)) (n + 1)
where
  go : Nat → Nat → Nat
    | 0, n => n
    | left + 1, n =>
      if f.isEmpty n then n
      else if f.isCode n || (f.line n).indent < 0 || !f.interruptsText n f.limit true then
        go left (n + 1)
      else n

def paragraph (f : Frame) (n : Nat) : BlockM Nat := do
  let stop := f.paragraphEnd n
  emitInline { type := "paragraph", tag := "p" } (f.textOf n stop)
  return stop

/-- How many missing cells may be filled in over a whole table. -/
def filledCellLimit : Nat := 65536

/-- The rows of the body of a table. Cells that are missing count as empty, and cells beyond those
of the head are dropped. -/
def bodyRows (f : Frame) (last columns : Nat) :
    (bound n : Nat) → (filled : Int) → List (List (List Char))
  | 0, _, _ => []
  | bound + 1, n, filled =>
    let content := Text.trimBy Text.isBlank (f.line n).content
    if last ≤ n || f.isOutdented n || f.interruptsQuote n || content.isEmpty || f.isCode n then []
    else
      let cells := rowCells content
      let filled := filled + columns - cells.length
      if (filledCellLimit : Int) < filled then []
      else
        (cells ++ List.replicate (columns - cells.length) []).take columns ::
          f.bodyRows last columns bound (n + 1) filled

def emitRow (cell : String) (cells : List (List Char)) : BlockM Unit :=
  within { type := "tr", tag := "tr" } do
    for content in cells do
      emitInline { type := cell, tag := cell } content

def table (f : Frame) (n last : Nat) (head : List (List Char)) : BlockM Nat :=
  within { type := "table", tag := "table" } do
    within { type := "thead", tag := "thead" } (emitRow "th" head)
    let rows := f.bodyRows last head.length (last - n) (n + 2) 0
    if !rows.isEmpty then
      within { type := "tbody", tag := "tbody" } do
        for row in rows do
          emitRow "td" row
    return n + 2 + rows.length

/-- Reads the block that starts at a line, and returns the line after it. What is inside a list
is read by `inList`, and what is inside another container by `inner`. -/
def block (f : Frame) (inner inList : BlockReader) (n last : Nat) : BlockM Nat :=
  match f.tableHead? n last with
  | some head => f.table n last head
  | none =>
  if f.isCode n then f.indentedCode n last else
  match f.fence? n with
  | some (c, size, info) => f.fencedCode n last c size info
  | none =>
  if f.startsQuote n then f.quote inner n last
  else if f.isThematicBreak n then do
    emit (.leaf { type := "hr", tag := "hr" })
    return n + 1
  else
  match f.listMarker? n false with
  | some marker => f.list inList n last marker
  | none =>
  match f.noteLabel? n with
  | some (label, rest) => f.note inner n last label rest
  | none =>
  match f.reference? n with
  | some r => reference n r
  | none =>
  match f.heading? n with
  | some (level, content) => heading n level content
  | none =>
  match f.underlined? n last with
  | some (stop, level) => f.underlinedHeading n stop level
  | none => f.paragraph n

end Frame

def readBlocks (block : Frame → (n last : Nat) → BlockM Nat) : BlockReader :=
  fun f first last => go f last block (last - first) first
where
  go (f : Frame) (last : Nat) (block : Frame → (n last : Nat) → BlockM Nat) :
      (bound n : Nat) → BlockM Nat
    | 0, n => return n
    | bound + 1, n => do
      if last ≤ n then return n
      let n := f.skipEmpty n
      if last ≤ n || f.isOutdented n then return n
      let next ← block f n last
      go f last block bound (if next < last && f.isEmpty next then next + 1 else next)

/-- How deep blocks may nest. What is inside deeper ones is dropped. -/
def nestingLimit : Nat := 20

/-- Reads blocks inside as many containers as leave room for `room` more. A list takes two levels,
one for itself and one for its items. -/
def blockReader : (room : Nat) → BlockReader
  | 0 => readBlocks fun _ _ last => return last
  | 1 => readBlocks fun f => f.block (blockReader 0) (blockReader 0)
  | room + 2 => readBlocks fun f => f.block (blockReader (room + 1)) (blockReader room)

def blocksOf (lines : List Line) : Blocks :=
  let f : Frame := { lines := lines.toArray, limit := lines.length }
  (blockReader nestingLimit f 0 lines.length {}).2

end RichMarkdown.Markdown
