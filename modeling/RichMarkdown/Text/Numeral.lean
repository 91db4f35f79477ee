import RichMarkdown.Text.Space
import RichMarkdown.Text.DecimalDigit

/-! Whole numbers written in decimal. -/
namespace RichMarkdown.Text

def asciiDigit? (c : Char) : Option Nat :=
  if 0x30 ≤ c.toNat && c.toNat ≤ 0x39 then some (c.toNat - 0x30) else none

def digitsFrom? (digit? : Char → Option Nat) (n : Nat) : List Char → Option Nat
  | [] => some n
  | '_' :: c :: rest => do digitsFrom? digit? (10 * n + (← digit? c)) rest
  | c :: rest => do digitsFrom? digit? (10 * n + (← digit? c)) rest

def natural? (digit? : Char → Option Nat) : List Char → Option Nat
  | [] => none
  | c :: rest => do digitsFrom? digit? (← digit? c) rest

def integer? (digit? : Char → Option Nat) : List Char → Option Int
  | '-' :: rest => (natural? digit? rest).map fun n => -(n : Int)
  | '+' :: rest => (natural? digit? rest).map Int.ofNat
  | rest => (natural? digit? rest).map Int.ofNat

/-- The whole number that a text stands for, with the digits of any script and with spaces
around it allowed. The runtime's limit of 4300 digits is left out. -/
def wholeNumber? (s : String) : Option Int :=
  integer? decimalDigit? (trimBy isSpace s.toList)

/-- The whole number that a configuration value stands for: ASCII digits, white space around
them allowed, and a fraction that consists of zeros. -/
def settingNumber? (s : String) : Option Int :=
  let t := trimBy isWhiteSpace s.toList
  let fraction := t.dropWhile (· ≠ '.')
  if fraction.all fun c => c == '.' || c == '0' then
    if fraction.count '.' ≤ 1 then integer? asciiDigit? (t.takeWhile (· ≠ '.')) else none
  else none

end RichMarkdown.Text
