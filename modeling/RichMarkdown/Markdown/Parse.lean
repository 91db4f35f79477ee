import RichMarkdown.Markdown.Block.Parse
import RichMarkdown.Markdown.Inline.Parse
import RichMarkdown.Markup.Build

/-! From markdown text to its source tree. -/
namespace RichMarkdown.Markdown

open Markup (Event Node)

def BlockEvent.read (b : Blocks) : BlockEvent → NoteM Event
  | .opening node => return .opening node
  | .closing type => return .closing type
  | .leaf node => return .leaf node
  | .inline content => return .leaf (← readInline b.targets b.notes content)

/-- The syntax tree of a text. Blocks come first, since inline content may refer to definitions
that follow it. -/
def syntaxTree (text : String) : Except BuildError Node := do
  let b := blocksOf (linesOf (normalizeText text.toList))
  let (events, notes) ← (b.events.toList.mapM (BlockEvent.read b)).run #[]
  return { type := "root", children := ← Event.nest (Note.gather notes events) }

def parse (text : String) : Except BuildError Source.Node × List String :=
  match syntaxTree text with
  | .ok root => Markup.build root
  | .error e => (.error e, [])

end RichMarkdown.Markdown
