import RichMarkdown.Text.Space

/-! The ASCII form of labels of host names. -/
namespace RichMarkdown.Url.Punycode

def digitChar (d : Nat) : Char :=
  if d < 26 then Char.ofNat (0x61 + d) else Char.ofNat (0x30 + d - 26)

def digitValue? (c : Char) : Option Nat :=
  let n := c.toNat
  if 0x61 ≤ n && n ≤ 0x7A then some (n - 0x61)
  else if 0x41 ≤ n && n ≤ 0x5A then some (n - 0x41)
  else if 0x30 ≤ n && n ≤ 0x39 then some (n - 0x30 + 26)
  else none

def firstExtended : Nat := 0x80

/-- The least value that ends a number at the digit with position `36 * k`. -/
def threshold (k bias : Nat) : Nat :=
  min 26 (max 1 (36 * (k + 1) - bias))

def adapt (delta count : Nat) (first : Bool) : Nat :=
  let delta := if first then delta / 700 else delta / 2
  let (delta, k) := shrink 64 (delta + delta / count) 0
  k + 36 * delta / (delta + 38)
where
  shrink : Nat → Nat → Nat → Nat × Nat
    | 0, delta, k => (delta, k)
    | fuel + 1, delta, k => if 455 < delta then shrink fuel (delta / 35) (k + 36) else (delta, k)

def encodeNumber (bias : Nat) : (fuel k n : Nat) → List Char
  | 0, _, _ => []
  | fuel + 1, k, n =>
    let t := threshold k bias
    if n < t then [digitChar n]
    else digitChar (t + (n - t) % (36 - t)) :: encodeNumber bias fuel (k + 1) ((n - t) / (36 - t))

structure Encoder where
  output : List Char
  delta : Nat
  bias : Nat
  written : Nat

def Encoder.pass (basic n : Nat) (e : Encoder) (c : Char) : Encoder :=
  if c.toNat < n then { e with delta := e.delta + 1 }
  else if c.toNat = n then
    { output := e.output ++ encodeNumber e.bias (e.delta + 1) 0 e.delta
      delta := 0
      bias := adapt e.delta (e.written + 1) (e.written == basic)
      written := e.written + 1 }
  else e

def extendedPoints (label : List Char) : List Nat :=
  let points := (label.map Char.toNat).filter (firstExtended ≤ ·)
  (points.mergeSort (· ≤ ·)).eraseDups

/-- The basic characters, then the others as distances in order of their code points. -/
def encode (label : List Char) : List Char :=
  let basic := label.filter (·.toNat < firstExtended)
  let start : Encoder := ⟨[], 0, 72, basic.length⟩
  let (e, _) := (extendedPoints label).foldl (fun (e, from_) n =>
    let e := { e with delta := e.delta + (n - from_) * (e.written + 1) }
    let e := label.foldl (Encoder.pass basic.length n) e
    ({ e with delta := e.delta + 1 }, n + 1)) (start, firstExtended)
  (if basic.isEmpty then [] else basic ++ ['-']) ++ e.output

def decodeNumber (bias : Nat) : (k weight : Nat) → List Char → Option (Nat × List Char)
  | _, _, [] => none
  | k, weight, c :: rest => do
    let d ← digitValue? c
    let t := threshold k bias
    if d < t then some (d * weight, rest)
    else
      let (n, rest) ← decodeNumber bias (k + 1) (weight * (36 - t)) rest
      some (d * weight + n, rest)

def insertPoints : (fuel n i bias : Nat) → (output : List Char) → List Char → Option (List Char)
  | _, _, _, _, output, [] => some output
  | 0, _, _, _, _, _ => none
  | fuel + 1, n, i, bias, output, s => do
    let (distance, rest) ← decodeNumber bias 0 1 s
    let count := output.length + 1
    let place := i + distance
    let point := n + place / count
    if point.isValidChar then
      let output := output.take (place % count) ++ Char.ofNat point :: output.drop (place % count)
      insertPoints fuel point (place % count + 1) (adapt distance count (i == 0)) output rest
    else none

def decode? (s : List Char) : Option (List Char) :=
  let tail := (s.reverse.takeWhile (· ≠ '-')).reverse
  let basic := s.take (s.length - tail.length - 1)
  if basic.all (·.toNat < firstExtended) then
    insertPoints (s.length + 1) firstExtended 0 72 basic tail
  else none

end RichMarkdown.Url.Punycode
