import RichMarkdown.Text.Entity
import RichMarkdown.Text.Punctuation
import RichMarkdown.Json.Reader

/-! Backslash escapes and character references. -/
namespace RichMarkdown.Markdown

/-- Code points that a numeric reference may name: no surrogates, no controls but the blank ones,
and no code point that stands for no character for good. -/
def isNamedCode (n : Nat) : Bool :=
  !(0xD800 ≤ n && n ≤ 0xDFFF) && !(0xFDD0 ≤ n && n ≤ 0xFDEF) && n % 0x10000 < 0xFFFE &&
    !(n ≤ 0x08) && n != 0x0B && !(0x0E ≤ n && n ≤ 0x1F) && !(0x7F ≤ n && n ≤ 0x9F) &&
    n ≤ 0x10FFFF

def numericCode? (decimals hexadecimals : Nat) : List Char → Option Nat
  | '#' :: x :: digits =>
    if x = 'x' || x = 'X' then
      if digits.isEmpty || hexadecimals < digits.length then none
      else digits.foldlM (fun n c => (Json.hexDigit? c).map (16 * n + ·)) 0
    else if (x :: digits).all Char.isDigit && digits.length < decimals then
      some (Json.digitsValue (x :: digits))
    else none
  | _ => none

def nameLimit : Nat := 32

def takeReference? (s : List Char) : Option (List Char × List Char) :=
  match s with
  | c :: rest =>
    if c.isAlpha || c = '#' then
      let tail := rest.takeWhile Char.isAlphanum
      if tail.isEmpty || nameLimit ≤ tail.length then none
      else match rest.drop tail.length with
        | ';' :: after => some (c :: tail, after)
        | _ => none
    else none
  | [] => none

def referenceText? (name : List Char) : Option (List Char) :=
  match Text.entity? (String.ofList name) with
  | some s => some s.toList
  | none => match numericCode? 8 8 name with
    | some n => if isNamedCode n then some [Char.ofNat n] else none
    | none => none

def unescapeWithin : (bound : Nat) → List Char → List Char
  | 0, s => s
  | _, [] => []
  | n + 1, '\\' :: c :: rest =>
    if Text.isAsciiPunctuation c then c :: unescapeWithin n rest
    else '\\' :: unescapeWithin n (c :: rest)
  | n + 1, '&' :: rest =>
    match takeReference? rest with
    | some (name, after) => match referenceText? name with
      | some text => text ++ unescapeWithin n after
      | none => '&' :: unescapeWithin n rest
    | none => '&' :: unescapeWithin n rest
  | n + 1, c :: rest => c :: unescapeWithin n rest

def unescape (s : List Char) : List Char :=
  unescapeWithin s.length s

end RichMarkdown.Markdown
