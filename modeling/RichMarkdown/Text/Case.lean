import RichMarkdown.Text.Case.Lower
import RichMarkdown.Text.Case.Upper
import RichMarkdown.Text.Case.Context

/-! Full case conversion of text. Lower-casing looks at the letters around a capital sigma: at
the end of a word it has a form of its own. -/
namespace RichMarkdown.Text

def lowerChar (c : Char) : List Char :=
  let n := c.toNat
  if n < 0x80 then
    if 0x41 ≤ n && n ≤ 0x5A then [Char.ofNat (n + 0x20)] else [c]
  else if n == 0x130 then ['i', '\u0307']
  else match mapRuns? lowerRuns n with
    | some m => [Char.ofNat m]
    | none => [c]

def upperChar (c : Char) : List Char :=
  let n := c.toNat
  if n < 0x80 then
    if 0x61 ≤ n && n ≤ 0x7A then [Char.ofNat (n - 0x20)] else [c]
  else match upperExpansions.lookup n with
    | some ms => ms.map Char.ofNat
    | none => match mapRuns? upperRuns n with
      | some m => [Char.ofNat m]
      | none => [c]

def isCased (c : Char) : Bool :=
  casedLetters.contains c.toNat

def isCaseIgnorable (c : Char) : Bool :=
  caseIgnorable.contains c.toNat

def startsCased (s : List Char) : Bool :=
  match s.dropWhile isCaseIgnorable with
  | c :: _ => isCased c
  | [] => false

/-- Lower-cases a text of which `afterCased` says whether a cased letter stands before it. -/
def lowerAfter (afterCased : Bool) : List Char → List Char
  | [] => []
  | c :: rest =>
    let form :=
      if c = 'Σ' then [if afterCased && !startsCased rest then 'ς' else 'σ'] else lowerChar c
    form ++ lowerAfter (if isCaseIgnorable c then afterCased else isCased c) rest

def lower (s : List Char) : List Char :=
  lowerAfter false s

def upper (s : List Char) : List Char :=
  s.flatMap upperChar

end RichMarkdown.Text
