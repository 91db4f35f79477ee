/-! Numbers written with a fraction or an exponent. They stand for the nearest binary number
with 53 significant bits. -/
namespace RichMarkdown

/-- The number `digits * 10 ^ exponent`, with a sign of its own so that a negative zero has
one. -/
structure Decimal where
  negative : Bool
  digits : Nat
  exponent : Int
  deriving DecidableEq

namespace Decimal

def strip (fuel : Nat) (digits : Nat) (exponent : Int) : Nat × Int :=
  match fuel with
  | 0 => (digits, exponent)
  | fuel + 1 =>
    if digits % 10 == 0 then strip fuel (digits / 10) (exponent + 1) else (digits, exponent)

def normal (negative : Bool) (digits : Nat) (exponent : Int) : Decimal :=
  if digits = 0 then ⟨negative, 0, 0⟩
  else
    let (d, e) := strip (Nat.toDigits 10 digits).length digits exponent
    ⟨negative, d, e⟩

def positionalFrom : Int := -4
def positionalBelow : Int := 16

def positional (digits : List Char) (point : Int) : List Char :=
  let n := digits.length
  if point ≤ 0 then
    '0' :: '.' :: List.replicate (-point).toNat '0' ++ digits
  else if n ≤ point.toNat then
    digits ++ List.replicate (point.toNat - n) '0' ++ ['.', '0']
  else
    digits.take point.toNat ++ '.' :: digits.drop point.toNat

def scientific (digits : List Char) (power : Int) : List Char :=
  let mantissa := match digits with
    | d :: e :: rest => d :: '.' :: e :: rest
    | short => short
  let size := Nat.toDigits 10 power.natAbs
  mantissa ++ 'e' :: (if power < 0 then '-' else '+') ::
    (List.replicate (2 - size.length) '0' ++ size)

def chars (d : Decimal) : List Char :=
  let digits := Nat.toDigits 10 d.digits
  let point := (digits.length : Int) + d.exponent
  let magnitude :=
    if positionalFrom ≤ point - 1 && point - 1 < positionalBelow then positional digits point
    else scientific digits (point - 1)
  if d.negative then '-' :: magnitude else magnitude

/-- The quotient rounded to a whole number, a half to the even neighbour. -/
def roundDiv (num den : Nat) : Nat :=
  let q := num / den
  let r := num % den
  if 2 * r < den then q
  else if den < 2 * r then q + 1
  else if q % 2 == 0 then q else q + 1

/-- The nearest `m * 2 ^ k` to a positive quotient where `m` has at most 53 bits. -/
def nearestBinary (num den : Nat) : Nat × Int :=
  let scaled (k : Int) : Nat :=
    if 0 ≤ k then roundDiv num (den * Nat.pow 2 k.toNat)
    else roundDiv (num * Nat.pow 2 (-k).toNat) den
  let k : Int := (Nat.log2 num : Int) - Nat.log2 den - 53
  let limit := Nat.pow 2 53
  if scaled k ≤ limit then (scaled k, k)
  else if scaled (k + 1) ≤ limit then (scaled (k + 1), k + 1)
  else (scaled (k + 2), k + 2)

/-- Numbers of a larger size are infinite, and those of a smaller size are zero. -/
def largestPower : Int := 309
def smallestPower : Int := -324

def magnitude? (d : Decimal) : Option (Nat × Int) :=
  let power := ((Nat.toDigits 10 d.digits).length : Int) + d.exponent
  if d.digits = 0 || power ≤ smallestPower then some (0, 0)
  else if largestPower < power then none
  else if 0 ≤ d.exponent then some (nearestBinary (d.digits * Nat.pow 10 d.exponent.toNat) 1)
  else some (nearestBinary d.digits (Nat.pow 10 (-d.exponent).toNat))

def signed (d : Decimal) (n : Nat) : Int :=
  if d.negative then -(n : Int) else n

def truncate? (d : Decimal) : Option Int :=
  d.magnitude?.map fun (m, k) =>
    d.signed (if 0 ≤ k then m * Nat.pow 2 k.toNat else m / Nat.pow 2 (-k).toNat)

def hasFraction (d : Decimal) : Bool :=
  match d.magnitude? with
  | some (m, k) => k < 0 && m % Nat.pow 2 (-k).toNat != 0
  | none => false

end Decimal

end RichMarkdown
