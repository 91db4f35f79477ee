import RichMarkdown.Json.Basic
import RichMarkdown.Text.Numeral

/-! Reading JSON text. Beyond the standard, `NaN`, `Infinity` and `-Infinity` are read as numbers
out of range, and of two fields with one name the last value stands in the first place. -/
namespace RichMarkdown.Json

def skipSpace (s : List Char) : List Char :=
  s.dropWhile fun c => c == ' ' || c == '\t' || c == '\n' || c == '\r'

def hexDigit? (c : Char) : Option Nat :=
  let n := c.toNat
  if 0x30 ≤ n && n ≤ 0x39 then some (n - 0x30)
  else if 0x61 ≤ n && n ≤ 0x66 then some (n - 0x61 + 10)
  else if 0x41 ≤ n && n ≤ 0x46 then some (n - 0x41 + 10)
  else none

def hex4? (a b c d : Char) : Option Nat := do
  return (← hexDigit? a) * 4096 + (← hexDigit? b) * 256 + (← hexDigit? c) * 16 + (← hexDigit? d)

def escaped? : Char → Option Nat
  | '"' => some 0x22
  | '\\' => some 0x5C
  | '/' => some 0x2F
  | 'b' => some 0x08
  | 'f' => some 0x0C
  | 'n' => some 0x0A
  | 'r' => some 0x0D
  | 't' => some 0x09
  | _ => none

/-- The codes of a string up to its closing quote, and what follows. An escape of four digits
gives one code even if it is half of a surrogate pair. -/
def readCodes : List Char → Option (List Nat × List Char)
  | '"' :: rest => some ([], rest)
  | '\\' :: 'u' :: a :: b :: c :: d :: rest => do
    let n ← hex4? a b c d
    let (codes, after) ← readCodes rest
    return (n :: codes, after)
  | '\\' :: e :: rest => do
    let n ← escaped? e
    let (codes, after) ← readCodes rest
    return (n :: codes, after)
  | c :: rest =>
    if c.toNat < 0x20 || c = '\\' then none
    else do
      let (codes, after) ← readCodes rest
      return (c.toNat :: codes, after)
  | [] => none

def isHighSurrogate (n : Nat) : Bool := 0xD800 ≤ n && n ≤ 0xDBFF
def isLowSurrogate (n : Nat) : Bool := 0xDC00 ≤ n && n ≤ 0xDFFF

/-- A character of its own. Half a pair becomes the replacement character. -/
def charOfCode (n : Nat) : Char :=
  if isHighSurrogate n || isLowSurrogate n then '\uFFFD' else Char.ofNat n

def charsOfCodes : List Nat → List Char
  | [] => []
  | [n] => [charOfCode n]
  | n :: m :: rest =>
    if isHighSurrogate n && isLowSurrogate m then
      Char.ofNat (0x10000 + (n - 0xD800) * 0x400 + (m - 0xDC00)) :: charsOfCodes rest
    else charOfCode n :: charsOfCodes (m :: rest)

def readText (s : List Char) : Option (String × List Char) := do
  let (codes, rest) ← readCodes s
  return (String.ofList (charsOfCodes codes), rest)

def digitsValue (s : List Char) : Nat :=
  s.foldl (fun n c => 10 * n + (c.toNat - 0x30)) 0

def readFraction : List Char → List Char × List Char
  | '.' :: rest =>
    match rest.takeWhile Char.isDigit with
    | [] => ([], '.' :: rest)
    | digits => (digits, rest.dropWhile Char.isDigit)
  | s => ([], s)

def readPower (s : List Char) : Option Int × List Char :=
  match s with
  | e :: rest =>
    if e = 'e' || e = 'E' then
      let (negative, rest) := match rest with
        | '-' :: r => (true, r)
        | '+' :: r => (false, r)
        | r => (false, r)
      match rest.takeWhile Char.isDigit with
      | [] => (none, s)
      | digits =>
        let n : Int := digitsValue digits
        (some (if negative then -n else n), rest.dropWhile Char.isDigit)
    else (none, s)
  | [] => (none, [])

/-- Any number of digits is read. The runtime's limit of 4300 digits on turning a text into a whole
number is left out. -/
def readNumber (negative : Bool) (s : List Char) : Option (Json × List Char) :=
  let whole := match s with
    | '0' :: _ => ['0']
    | _ => s.takeWhile Char.isDigit
  if whole.isEmpty then none
  else
    let (fraction, rest) := readFraction (s.drop whole.length)
    let (power, rest) := readPower rest
    if fraction.isEmpty && power.isNone then
      let n : Int := digitsValue whole
      some (int (if negative then -n else n), rest)
    else
      let digits := digitsValue (whole ++ fraction)
      some (decimal (.normal negative digits (power.getD 0 - fraction.length)), rest)

def outOfRange (negative : Bool) : Json :=
  decimal ⟨negative, 1, 999⟩

mutual

/-- A value and what follows it. The bound is on the number of steps: the length of the text
suffices, since each step takes a character. The runtime's limit on nesting is left out. -/
def readValue (bound : Nat) (s : List Char) : Option (Json × List Char) :=
  match bound with
  | 0 => none
  | bound + 1 =>
    match s with
    | '"' :: rest => (readText rest).map fun (t, r) => (str t, r)
    | '[' :: rest =>
      match skipSpace rest with
      | ']' :: r => some (arr [], r)
      | r => (readItems bound r).map fun (items, r) => (arr items, r)
    | '\x7b' :: rest =>
      match skipSpace rest with
      | '\x7d' :: r => some (obj [], r)
      | r => (readFields bound r).map fun (fields, r) => (obj (Entries.ofPairs fields), r)
    | 'n' :: 'u' :: 'l' :: 'l' :: rest => some (null, rest)
    | 't' :: 'r' :: 'u' :: 'e' :: rest => some (bool true, rest)
    | 'f' :: 'a' :: 'l' :: 's' :: 'e' :: rest => some (bool false, rest)
    | 'N' :: 'a' :: 'N' :: rest => some (outOfRange false, rest)
    | 'I' :: 'n' :: 'f' :: 'i' :: 'n' :: 'i' :: 't' :: 'y' :: rest => some (outOfRange false, rest)
    | '-' :: 'I' :: 'n' :: 'f' :: 'i' :: 'n' :: 'i' :: 't' :: 'y' :: rest =>
      some (outOfRange true, rest)
    | '-' :: rest => readNumber true rest
    | rest => readNumber false rest

def readItems (bound : Nat) (s : List Char) : Option (List Json × List Char) :=
  match bound with
  | 0 => none
  | bound + 1 => do
    let (item, rest) ← readValue bound s
    match skipSpace rest with
    | ',' :: r =>
      let (items, r) ← readItems bound (skipSpace r)
      return (item :: items, r)
    | ']' :: r => return ([item], r)
    | _ => none

def readFields (bound : Nat) (s : List Char) : Option (List (String × Json) × List Char) :=
  match bound with
  | 0 => none
  | bound + 1 =>
    match s with
    | '"' :: rest => do
      let (name, rest) ← readText rest
      match skipSpace rest with
      | ':' :: r =>
        let (value, rest) ← readValue bound (skipSpace r)
        match skipSpace rest with
        | ',' :: r =>
          let (fields, r) ← readFields bound (skipSpace r)
          return ((name, value) :: fields, r)
        | '\x7d' :: r => return ([(name, value)], r)
        | _ => none
      | _ => none
    | _ => none

end

def read? (s : String) : Option Json := do
  let cs := s.toList
  let (value, rest) ← readValue (2 * cs.length + 1) (skipSpace cs)
  if (skipSpace rest).isEmpty then some value else none

end RichMarkdown.Json
