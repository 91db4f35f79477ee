import RichMarkdown.Text.Space

/-! Taking an address apart into protocol, host and the rest, and putting it together again. -/
namespace RichMarkdown.Url

structure Parts where
  /-- With its colon. -/
  protocol : List Char := []
  slashes : Bool := false
  auth : List Char := []
  port : List Char := []
  hostname : List Char := []
  pathname : List Char := []
  /-- With its question mark. -/
  search : List Char := []
  /-- With its number sign. -/
  fragment : List Char := []

/-- Letters of protocols. Besides those of ASCII there are the four that equal one of them when
case is left out of account. -/
def isProtocolLetter (c : Char) : Bool :=
  c.isAlpha || c == '\u0130' || c == '\u0131' || c == '\u017F' || c == '\u212A'

def isProtocolChar (c : Char) : Bool :=
  isProtocolLetter c || c.isDigit || c == '.' || c == '+' || c == '-'

def takeProtocol (s : List Char) : List Char × List Char :=
  let name := s.takeWhile isProtocolChar
  match name, s.drop name.length with
  | [], _ => ([], s)
  | _, ':' :: rest => (name ++ [':'], rest)
  | _, _ => ([], s)

def scriptProtocol : List Char := "javascript:".toList

def slashedProtocols : List (List Char) :=
  ["http:", "https:", "ftp:", "gopher:", "file:"].map String.toList

def endsHost (c : Char) : Bool :=
  c == '/' || c == '?' || c == '#'

def isNonHost (c : Char) : Bool :=
  endsHost c || "%;'\x7b\x7d|\\^\x60<>\" \r\n\t".toList.contains c

def takeAuth (s : List Char) : List Char × List Char :=
  let host := s.takeWhile (!endsHost ·)
  let name := (host.reverse.takeWhile (· ≠ '@')).reverse
  if name.length < host.length then
    let size := host.length - name.length - 1
    (s.take size, s.drop (size + 1))
  else ([], s)

def splitPort (host : List Char) : List Char × List Char :=
  let digits := (host.reverse.takeWhile Char.isDigit).reverse
  match host.reverse.drop digits.length with
  | ':' :: name => (name.reverse, digits)
  | _ => (host, [])

def isHostChar (c : Char) : Bool :=
  c.isAlphanum || c == '+' || c == '_' || c == '-'

def labelLimit : Nat := 63

def hostLimit : Nat := 255

def isHostLabel (label : List Char) : Bool :=
  label.all (fun c => isHostChar c || 0x7F < c.toNat) && label.length ≤ labelLimit

def splitOn (sep : Char) : List Char → List (List Char)
  | [] => [[]]
  | c :: rest =>
    if c = sep then [] :: splitOn sep rest
    else match splitOn sep rest with
      | part :: parts => (c :: part) :: parts
      | [] => [[c]]

def joinWith (sep : Char) (parts : List (List Char)) : List Char :=
  [sep].intercalate parts

def hostStart (label : List Char) : List Char :=
  (label.takeWhile isHostChar).take labelLimit

/-- The labels up to the first one that is no host label, of which the start still counts, and
what follows. -/
def cutHost : List (List Char) → List (List Char) × Option (List (List Char))
  | [] => ([], none)
  | label :: rest =>
    if isHostLabel label then
      let (valid, invalid) := cutHost rest
      (label :: valid, invalid)
    else
      let start := hostStart label
      ([start], some (label.drop start.length :: rest))

def isBracketed (host : List Char) : Bool :=
  host.head? == some '[' && host.getLast? == some ']'

def readHost (parts : Parts) (s : List Char) : Parts × List Char :=
  let (auth, s) := takeAuth s
  let host := s.takeWhile (!isNonHost ·)
  let host := if host.getLast? == some ':' then host.dropLast else host
  let rest := s.drop host.length
  let (name, port) := splitPort host
  if isBracketed name then
    let hostname := if hostLimit < name.length then [] else (name.drop 1).dropLast
    ({ parts with auth, port, hostname }, rest)
  else
    let (hostname, rest) := match cutHost (splitOn '.' name) with
      | (valid, some invalid) => (joinWith '.' valid, joinWith '.' invalid ++ rest)
      | (_, none) => (name, rest)
    ({ parts with auth, port, hostname := if hostLimit < hostname.length then [] else hostname },
      rest)

def Parts.of (address : List Char) : Parts :=
  let (protocol, rest) := takeProtocol (Text.trimBy Text.isSpace address)
  let hostless := protocol == scriptProtocol
  let (slashes, rest) := match rest with
    | '/' :: '/' :: r => if hostless then (false, rest) else (true, r)
    | _ => (false, rest)
  let parts : Parts := { protocol, slashes }
  let (parts, rest) :=
    if !hostless && (slashes || (!protocol.isEmpty && !slashedProtocols.contains protocol)) then
      readHost parts rest
    else (parts, rest)
  let fragment := rest.dropWhile (· ≠ '#')
  let rest := rest.takeWhile (· ≠ '#')
  let search := rest.dropWhile (· ≠ '?')
  { parts with pathname := rest.takeWhile (· ≠ '?'), search, fragment }

def Parts.format (p : Parts) : List Char :=
  p.protocol ++ (if p.slashes then ['/', '/'] else []) ++
    (if p.auth.isEmpty then [] else p.auth ++ ['@']) ++
    (if p.hostname.contains ':' then '[' :: p.hostname ++ [']'] else p.hostname) ++
    (if p.port.isEmpty then [] else ':' :: p.port) ++ p.pathname ++ p.search ++ p.fragment

end RichMarkdown.Url
