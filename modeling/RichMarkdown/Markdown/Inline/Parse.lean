import RichMarkdown.Markdown.Inline.Delimiter
import RichMarkdown.Markdown.Inline.Item
import RichMarkdown.Markdown.Note

/-! From the text of a block to its inline content. -/
namespace RichMarkdown.Markdown

open Markup (Node Event)

abbrev InlineM := StateT Ahead NoteM

structure Pieces where
  events : Array Event := #[]
  /-- Text that no event stands for yet, the last character first. -/
  pending : List Char := []
  delimiters : Array Delimiter := #[]

namespace Pieces

def textNode (content : List Char) : Node :=
  { type := "text", content := String.ofList content }

def write (p : Pieces) (content : List Char) : Pieces :=
  { p with pending := content.reverse ++ p.pending }

def flush (p : Pieces) : Pieces :=
  if p.pending.isEmpty then p
  else { p with events := p.events.push (.leaf (textNode p.pending.reverse)), pending := [] }

def push (p : Pieces) (node : Node) : Pieces :=
  let p := p.flush
  { p with events := p.events.push (.leaf node) }

def lineBreak (p : Pieces) : Pieces :=
  let blanks := p.pending.takeWhile (· = ' ')
  let type := if 2 ≤ blanks.length then "hardbreak" else "softbreak"
  { p with pending := p.pending.drop blanks.length }.push { type, tag := "br" }

def delimit (p : Pieces) (content : List Char) (marker : Char) (size : Nat)
    (ends : Bool × Bool) : Pieces :=
  let p := p.push (textNode content)
  { p with
    delimiters := p.delimiters.push
      { marker, size, event := p.events.size - 1, opens := ends.1, closes := ends.2 } }

def nodes (p : Pieces) : Except BuildError (List Node) :=
  let p := p.flush
  Event.nest (placeElements p.delimiters p.events).toList

end Pieces

namespace InlineText

/-- Reads a run of delimiters. Tildes count in pairs, and one that is left over comes first; a
single one is text. -/
def delimiters (t : InlineText) (pos stop : Nat) (p : Pieces) : Pieces × Nat :=
  let marker := t.charAt pos
  let next := t.runEnd (· = marker) stop pos
  let size := next - pos
  let before := if pos = 0 then ' ' else t.charAt (pos - 1)
  let after := if next < stop then t.charAt next else ' '
  let ends := flanking before after (marker ≠ '_')
  if marker ≠ '~' then
    ((List.range size).foldl (fun p _ => p.delimit [marker] marker size ends) p, next)
  else if size < 2 then (p.write [marker], next)
  else
    let p := if size % 2 = 0 then p else p.push (Pieces.textNode [marker])
    ((List.range (size / 2)).foldl (fun p _ => p.delimit [marker, marker] marker 0 ends) p, next)

def referenceNode (type tag source : String) (r : Reference) : Node :=
  { type, tag
    attrs := (source, .str r.target.url) ::
      if r.target.title.isEmpty then [] else [("title", .str r.target.title)]
    data := (r.label.map fun label => ("label", .str label)).toList }

/-- Adds an item. `inner` reads the content of a link, and `apart` a text of its own. -/
def addItem (inner : (first stop : Nat) → InlineM (List Node))
    (apart : List Char → NoteM (List Node)) (p : Pieces) : Item → InlineM Pieces
  | .text content => return p.write content
  | .special content =>
    return p.push { type := "text_special", content := String.ofList content }
  | .newline => return p.lineBreak
  | .hardBreak => return p.push { type := "hardbreak", tag := "br" }
  | .code content =>
    return p.push { type := "code_inline", tag := "code", content := String.ofList content }
  | .link r first last => do
    let children ← inner first last
    return p.push { referenceNode "link" "a" "href" r with children }
  | .image r content => do
    let children ← apart content
    return p.push { referenceNode "image" "img" "src" r with
      content := String.ofList content, children }
  | .autolink url text =>
    return p.push { referenceNode "link" "a" "href" ⟨⟨url, ""⟩, none⟩ with
      children := [{ type := "text", content := text }] }
  | .noteReference label => do
    let n ← Note.number label
    return p.push { type := "footnote_ref", data := [("id", .int n), ("label", .str label)] }
  | .inlineNote content => do
    let n ← Note.numberInline do
      return { type := "inline", content := String.ofList content, children := ← apart content }
    return p.push { type := "footnote_ref", data := [("id", .int n)] }

def piece (t : InlineText) (room : Nat) (inner : (first stop : Nat) → InlineM (List Node))
    (apart : List Char → NoteM (List Node)) (stop pos : Nat) (p : Pieces) :
    InlineM (Pieces × Nat) := do
  let c := t.charAt pos
  if c = '*' || c = '_' || c = '~' then return t.delimiters pos stop p
  match ← modifyGet fun ahead => t.item? (t.skip stop room) pos stop ahead with
  | some (item, next) => return (← addItem inner apart p item, next)
  | none => return (p.write [c], pos + 1)

def pieces (piece : (stop pos : Nat) → Pieces → InlineM (Pieces × Nat)) (stop : Nat) :
    (bound pos : Nat) → Pieces → InlineM Pieces
  | 0, _, p => return p
  | bound + 1, pos, p => do
    if stop ≤ pos then return p
    let (p, next) ← piece stop pos p
    pieces piece stop bound next p

def content (t : InlineText) (apart : List Char → NoteM (List Node)) :
    (room first stop : Nat) → InlineM (List Node)
  | 0, first, stop =>
    return if stop ≤ first then [] else [Pieces.textNode (t.slice first stop)]
  | room + 1, first, stop => do
    let p ← pieces (t.piece (room + 1) (t.content apart room) apart) stop (stop - first) first {}
    p.nodes

end InlineText

/-- How deep inline elements may nest. What is inside deeper ones is text. -/
def inlineNestingLimit : Nat := 20

def inlineContent (targets : Targets) (notes : List String) :
    (bound : Nat) → List Char → NoteM (List Node)
  | 0, _ => return []
  | bound + 1, text => do
    let t : InlineText := { chars := text.toArray, targets, notes }
    let ahead : Ahead := { ends := Array.replicate t.chars.size none }
    (t.content (inlineContent targets notes bound) inlineNestingLimit 0 t.chars.size).run' ahead

def readInline (targets : Targets) (notes : List String) (text : List Char) : NoteM Node :=
  return {
    type := "inline", content := String.ofList text
    children := ← inlineContent targets notes (text.length + 1) text }

end RichMarkdown.Markdown
