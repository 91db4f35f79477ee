import RichMarkdown.Markdown.Escape
import RichMarkdown.Text.Space
import RichMarkdown.Text.Case
import RichMarkdown.Entries
import RichMarkdown.Url.Normalize

/-! What links point to: destinations, titles, and the labels under which definitions keep
them. -/
namespace RichMarkdown.Markdown

structure Target where
  url : String
  title : String

abbrev Targets := Entries Target

def matchLabel (label : List Char) : String :=
  String.ofList (Text.upper (Text.lower (Text.collapseBy Text.isBlank label)))

def angleDestination : List Char → Option (List Char × List Char)
  | [] => none
  | '\\' :: c :: rest => (angleDestination rest).map fun (d, after) => ('\\' :: c :: d, after)
  | '>' :: rest => some ([], rest)
  | c :: rest =>
    if c = '\n' || c = '<' then none
    else (angleDestination rest).map fun (d, after) => (c :: d, after)

def parenthesisLimit : Nat := 32

/-- A destination without brackets ends at a space or a control, or at the first closing
parenthesis that it did not open. The last number says how many are left open. -/
def bareDestination (depth : Nat) : List Char → Option (List Char × List Char × Nat)
  | [] => some ([], [], depth)
  | '\\' :: c :: rest =>
    if c = ' ' then some ([], '\\' :: c :: rest, depth)
    else (bareDestination depth rest).map fun (d, after, n) => ('\\' :: c :: d, after, n)
  | c :: rest =>
    if c.toNat ≤ 0x20 || c.toNat = 0x7F then some ([], c :: rest, depth)
    else if c = '(' then
      if parenthesisLimit ≤ depth then none
      else (bareDestination (depth + 1) rest).map fun (d, after, n) => (c :: d, after, n)
    else if c = ')' then
      if depth = 0 then some ([], c :: rest, depth)
      else (bareDestination (depth - 1) rest).map fun (d, after, n) => (c :: d, after, n)
    else (bareDestination depth rest).map fun (d, after, n) => (c :: d, after, n)

def destination? (s : List Char) : Option (String × List Char) :=
  match s with
  | '<' :: rest => (angleDestination rest).map fun (d, after) => (String.ofList (unescape d), after)
  | _ => match bareDestination 0 s with
    | some (c :: d, after, 0) => some (String.ofList (unescape (c :: d)), after)
    | _ => none

def titleUpTo (close : Char) : List Char → Option (List Char × List Char)
  | [] => none
  | '\\' :: c :: rest => (titleUpTo close rest).map fun (t, after) => ('\\' :: c :: t, after)
  | c :: rest =>
    if c = close then some ([], rest)
    else if c = '(' && close = ')' then none
    else (titleUpTo close rest).map fun (t, after) => (c :: t, after)

def title? (s : List Char) : Option (String × List Char) :=
  let titled (close : Char) (rest : List Char) :=
    (titleUpTo close rest).map fun (t, after) => (String.ofList (unescape t), after)
  match s with
  | '"' :: rest => titled '"' rest
  | '\'' :: rest => titled '\'' rest
  | '(' :: rest => titled ')' rest
  | _ => none

def allowedUrl? (address : String) : Option String :=
  let url := Url.normalize address
  if Url.isAllowed url then some url else none

end RichMarkdown.Markdown
