import RichMarkdown.Json.Basic
import RichMarkdown.Text.Quoted

/-! The compact written form of a JSON value: no blanks, and only the quote, the backslash and
the controls below U+0020 escaped. -/
namespace RichMarkdown.Json

def escape (c : Char) : List Char :=
  if c = '"' || c = '\\' then ['\\', c]
  else if c = '\x08' then ['\\', 'b']
  else if c = '\t' then ['\\', 't']
  else if c = '\n' then ['\\', 'n']
  else if c = '\x0c' then ['\\', 'f']
  else if c = '\r' then ['\\', 'r']
  else if c.toNat < 0x20 then '\\' :: 'u' :: Text.hex 4 c.toNat
  else [c]

def renderText (s : String) : List Char :=
  '"' :: s.toList.flatMap escape ++ ['"']

def renderInt (n : Int) : List Char :=
  if n < 0 then '-' :: Nat.toDigits 10 n.natAbs else Nat.toDigits 10 n.natAbs

mutual

def render : Json → List Char
  | null => ['n', 'u', 'l', 'l']
  | bool true => ['t', 'r', 'u', 'e']
  | bool false => ['f', 'a', 'l', 's', 'e']
  | int n => renderInt n
  | decimal d => d.chars
  | str s => renderText s
  | arr items => '[' :: renderItems items ++ [']']
  | obj fields => '\x7b' :: renderFields fields ++ ['\x7d']

def renderItems : List Json → List Char
  | [] => []
  | [j] => render j
  | j :: k :: rest => render j ++ ',' :: renderItems (k :: rest)

def renderFields : List (String × Json) → List Char
  | [] => []
  | [(name, j)] => renderText name ++ ':' :: render j
  | (name, j) :: f :: rest => renderText name ++ ':' :: render j ++ ',' :: renderFields (f :: rest)

end

def compact (j : Json) : String :=
  String.ofList j.render

end RichMarkdown.Json
