import RichMarkdown.Markdown.Target

/-! A text as inline content is read from it: by place, and with what has been seen ahead. -/
namespace RichMarkdown.Markdown

structure InlineText where
  chars : Array Char
  targets : Targets
  notes : List String

namespace InlineText

def charAt (t : InlineText) (pos : Nat) : Char :=
  t.chars.getD pos ' '

def slice (t : InlineText) (first stop : Nat) : List Char :=
  (t.chars.extract first stop).toList

def runEnd (t : InlineText) (p : Char → Bool) (stop pos : Nat) : Nat :=
  go (stop - pos) pos
where
  go : Nat → Nat → Nat
    | 0, pos => pos
    | left + 1, pos => if p (t.charAt pos) then go left (pos + 1) else pos

end InlineText

structure Ahead where
  /-- For each place that was looked at, where what starts there ends. -/
  ends : Array (Option Nat)
  /-- For each length of a run of backticks that was passed, where such a run was seen last. -/
  runs : List (Nat × Nat) := []
  complete : Bool := false

abbrev Scan := StateM Ahead

end RichMarkdown.Markdown
