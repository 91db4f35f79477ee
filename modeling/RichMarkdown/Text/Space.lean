/-! Four notions of white space, from the widest to the narrowest, and the cutting of text at
them. -/
namespace RichMarkdown.Text

/-- The characters with the White_Space property of Unicode. -/
def isWhiteSpace (c : Char) : Bool :=
  let n := c.toNat
  (0x09 ≤ n && n ≤ 0x0D) || n == 0x20 || n == 0x85 || n == 0xA0 || n == 0x1680 ||
    (0x2000 ≤ n && n ≤ 0x200A) || n == 0x2028 || n == 0x2029 || n == 0x202F || n == 0x205F ||
    n == 0x3000

/-- What sets words apart: white space and the four information separators. -/
def isSpace (c : Char) : Bool :=
  isWhiteSpace c || (0x1C ≤ c.toNat && c.toNat ≤ 0x1F)

/-- What is trimmed from the inline content of a block: white space but the next-line control. -/
def isBlank (c : Char) : Bool :=
  isWhiteSpace c && c.toNat != 0x85

/-- What counts as white space beside a run of emphasis characters: blanks but the line and
paragraph separators. -/
def isFlankingSpace (c : Char) : Bool :=
  isBlank c && c.toNat != 0x2028 && c.toNat != 0x2029

def isIndent (c : Char) : Bool :=
  c == ' ' || c == '\t'

def trimBy (p : Char → Bool) (s : List Char) : List Char :=
  ((s.dropWhile p).reverse.dropWhile p).reverse

def wordsBy (p : Char → Bool) : List Char → List (List Char)
  | [] => []
  | [c] => if p c then [] else [[c]]
  | c :: d :: rest =>
    if p c then wordsBy p (d :: rest)
    else if p d then [c] :: wordsBy p (d :: rest)
    else match wordsBy p (d :: rest) with
      | w :: ws => (c :: w) :: ws
      | [] => [[c]]

def collapseBy (p : Char → Bool) (s : List Char) : List Char :=
  [' '].intercalate (wordsBy p s)

end RichMarkdown.Text
