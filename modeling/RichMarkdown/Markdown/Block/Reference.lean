import RichMarkdown.Markdown.Block.Frame
import RichMarkdown.Markdown.Target

/-! Definitions of references: `[label]: url "title"`, which may run over several lines. -/
namespace RichMarkdown.Markdown

structure ReferenceDefinition where
  label : List Char
  target : Target
  lines : Nat

def referenceLabel : List Char → Option (List Char × List Char)
  | [] => none
  | '\\' :: c :: rest => (referenceLabel rest).map fun (l, after) => ('\\' :: c :: l, after)
  | ']' :: rest => some ([], rest)
  | c :: rest =>
    if c = '[' then none else (referenceLabel rest).map fun (l, after) => (c :: l, after)

def isBlankOrNewline (c : Char) : Bool :=
  Text.isIndent c || c = '\n'

def atLineEnd (s : List Char) : Bool :=
  (s.dropWhile Text.isIndent).head?.all (· = '\n')

def referenceTitle? (s : List Char) : Option (String × List Char) := do
  let start := s.dropWhile isBlankOrNewline
  if start.length = s.length then none
  let (title, after) ← title? start
  if title.isEmpty || atLineEnd after then some (title, after) else none

/-- Reads a definition at the start of a text, in which each line ends with a newline. A title
that does not end its line is no part of the definition. -/
def readReference (s : List Char) : Option ReferenceDefinition := do
  let (label, rest) ← match s with
    | '[' :: rest => referenceLabel rest
    | _ => none
  let rest ← match rest with
    | ':' :: rest => some (rest.dropWhile isBlankOrNewline)
    | _ => none
  let first := rest.takeWhile (· ≠ '\n')
  let (address, afterOnLine) ← destination? (first ++ (rest.drop first.length).take 1)
  let url ← allowedUrl? address
  let following := rest.drop (first.length + 1)
  let after := afterOnLine ++ following
  let found := if afterOnLine.isEmpty then none else referenceTitle? after
  let (title, stop) := found.getD ("", after)
  -- An escaped newline belongs to the destination, which then ends its line.
  if (!afterOnLine.isEmpty && !atLineEnd stop) || (matchLabel label).isEmpty then none
  else
    let read := s.length - stop.length
    let newlines := (s.take read).count '\n' - (if afterOnLine.isEmpty then 1 else 0)
    some { label, target := ⟨url, title⟩, lines := newlines + 1 }

namespace Frame

def continuesReference (f : Frame) (n : Nat) : Bool :=
  let l := f.line n
  n < f.limit && !l.isEmpty && (f.isCode n || l.indent < 0 || !f.interruptsText n f.limit false)

def referenceText (f : Frame) (n : Nat) : List Char :=
  let following := (List.range' (n + 1) (f.limit - (n + 1))).takeWhile f.continuesReference
  (n :: following).flatMap fun m => (f.line m).content ++ ['\n']

def reference? (f : Frame) (n : Nat) : Option ReferenceDefinition :=
  if f.isCode n || (f.line n).content.head? != some '[' then none
  else readReference (f.referenceText n)

end Frame

end RichMarkdown.Markdown
