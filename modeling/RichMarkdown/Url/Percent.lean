import RichMarkdown.Text.Quoted
import RichMarkdown.Json.Reader

/-! Percent encoding of addresses, and decoding them for display. -/
namespace RichMarkdown.Url

def keptWhenEncoding : List Char := ";/?:@&=+$,-_.!~*'()#".toList

def keptWhenDecoding : List Char := ";/?:@&=+$,#%".toList

def upperHex (n : Nat) : List Char :=
  (Text.hex 2 n).map Char.toUpper

def encodeByte (n : Nat) : List Char :=
  '%' :: upperHex n

def encodeBytes (c : Char) : List Char :=
  (String.singleton c).toUTF8.toList.flatMap fun b => encodeByte b.toNat

def isHexDigit (c : Char) : Bool :=
  (Json.hexDigit? c).isSome

/-- Encodes an address. What is encoded already stays as it is. -/
def encode : List Char → List Char
  | '%' :: a :: b :: rest =>
    if isHexDigit a && isHexDigit b then '%' :: a :: b :: encode rest
    else encodeByte 0x25 ++ encode (a :: b :: rest)
  | c :: rest =>
    (if c.isAlphanum || keptWhenEncoding.contains c then [c] else encodeBytes c) ++ encode rest
  | [] => []

def takeBytes : List Char → List Nat × List Char
  | '%' :: a :: b :: rest =>
    match Json.hexDigit? a, Json.hexDigit? b with
    | some x, some y =>
      let (bytes, after) := takeBytes rest
      ((16 * x + y) :: bytes, after)
    | _, _ => ([], '%' :: a :: b :: rest)
  | s => ([], s)

def isContinuation (b : Nat) : Bool := b / 0x40 == 2

/-- The character of a complete sequence of bytes, or one replacement character for each byte of
a sequence that no character has. -/
def charOfBytes (bytes : List Nat) : List Char :=
  match String.fromUTF8? ⟨(bytes.map Nat.toUInt8).toArray⟩ with
  | some s => s.toList
  | none => bytes.map fun _ => '\uFFFD'

def decodeAscii (b : Nat) : List Char :=
  let c := Char.ofNat b
  if keptWhenDecoding.contains c then encodeByte b else [c]

/-- How many bytes make up the sequence at the start: one if the lead byte does not go with the
bytes after it. -/
def sequenceLength : List Nat → Nat
  | a :: b :: rest =>
    if a / 0x20 == 6 && isContinuation b then 2
    else match rest with
      | [c] => if a / 0x10 == 14 && isContinuation b && isContinuation c then 3 else 1
      | c :: d :: _ =>
        if a / 0x10 == 14 && isContinuation b && isContinuation c then 3
        else if a / 8 == 30 && isContinuation b && isContinuation c && isContinuation d then 4
        else 1
      | [] => 1
  | _ => 1

/-- Decodes bytes to text, at most as many sequences as there are bytes. A byte that belongs to no
sequence is replaced by itself alone. -/
def decodeBytes : (bound : Nat) → List Nat → List Char
  | 0, _ => []
  | _, [] => []
  | n + 1, a :: rest =>
    if a < 0x80 then decodeAscii a ++ decodeBytes n rest
    else match sequenceLength (a :: rest) with
      | 1 => '\uFFFD' :: decodeBytes n rest
      | k => charOfBytes ((a :: rest).take k) ++ decodeBytes n ((a :: rest).drop k)

def decode (s : List Char) : List Char :=
  go s.length s
where
  go : Nat → List Char → List Char
    | 0, s => s
    | _, [] => []
    | n + 1, c :: rest =>
      match takeBytes (c :: rest) with
      | ([], _) => c :: go n rest
      | (bytes, after) => decodeBytes bytes.length bytes ++ go n after

end RichMarkdown.Url
