import RichMarkdown.Markup.Event
import RichMarkdown.Json.Display

/-! Footnotes: how they are numbered while a text is read, and how they are gathered at its end. -/
namespace RichMarkdown.Markdown

open Markup (Node Event)

inductive Note where
  | defined (label : String)
  | inline (content : Node)

/-- The footnotes that have been referred to. The place of a footnote is its number. -/
abbrev Notes := Array Note

abbrev NoteM := StateT Notes (Except BuildError)

namespace Note

def hasLabel (label : String) : Note → Bool
  | defined other => label = other
  | inline _ => false

def number (label : String) : NoteM Nat := do
  let notes ← get
  match notes.findIdx? (hasLabel label) with
  | some n => return n
  | none =>
    set (notes.push (defined label))
    return notes.size

/-- Numbers an inline footnote. Its number comes before those of footnotes that its content refers
to. -/
def numberInline (content : NoteM Node) : NoteM Nat := do
  let n := (← get).size
  modify (·.push (inline { type := "inline" }))
  let node ← content
  modify (·.setIfInBounds n (inline node))
  return n

def definitionType : String := "footnote_reference"

structure Extraction where
  rest : Array Event := #[]
  content : List Event := []
  label : String := ""
  isInside : Bool := false
  /-- The definitions, by label. The last one of a label counts. -/
  definitions : Entries (List Event) := []

def Extraction.add (x : Extraction) (e : Event) : Extraction :=
  if x.isInside then { x with content := e :: x.content } else { x with rest := x.rest.push e }

/-- Takes an event to the definition at hand or to the rest. A definition within another one takes
its place: what comes after it is not part of either. -/
def Extraction.step (x : Extraction) : Event → Extraction
  | .opening node =>
    if node.type = definitionType then
      let label := ((Entries.get? "label" node.data).getD .null).asText
      { x with isInside := true, content := [], label }
    else x.add (.opening node)
  | .closing type =>
    if type = definitionType then
      { x with isInside := false, definitions := x.definitions.put x.label x.content.reverse }
    else x.add (.closing type)
  | .leaf node => x.add (.leaf node)

/-- The events of a footnote at the end of a text. It is empty if its definition was lost to one
inside it. -/
def events (definitions : Entries (List Event)) (n : Nat) (note : Note) : List Event :=
  let (label, content) : Json × List Event := match note with
    | defined label => (.str label, (definitions.get? label).getD [])
    | inline node =>
      (.null, [.opening { type := "paragraph", tag := "p" }, .leaf node, .closing "paragraph"])
  .opening { type := "footnote", data := [("id", .int n), ("label", label)] } :: content ++
    [.closing "footnote"]

/-- Moves the footnotes that are referred to to the end of a text. Definitions of the others are
dropped. -/
def gather (notes : Notes) (text : List Event) : List Event :=
  let x := text.foldl Extraction.step {}
  let gathered := (notes.toList.zipIdx.map fun (note, n) => note.events x.definitions n).flatten
  if notes.isEmpty then x.rest.toList
  else x.rest.toList ++ .opening { type := "footnote_block" } :: gathered ++
    [.closing "footnote_block"]

end Note

end RichMarkdown.Markdown
