import RichMarkdown.Url.Parts
import RichMarkdown.Url.Percent
import RichMarkdown.Url.Punycode
import RichMarkdown.Text.Case

/-! Addresses as they are stored and as they are shown. -/
namespace RichMarkdown.Url

/-- Protocols of which host names have an ASCII form. An address without protocol counts too. -/
def hasAsciiHost (p : Parts) : Bool :=
  !p.hostname.isEmpty &&
    (p.protocol.isEmpty || ["http:", "https:", "mailto:"].contains (String.ofList p.protocol))

def isLabelDot (c : Char) : Bool :=
  c == '.' || c == '\u3002' || c == '\uFF0E' || c == '\uFF61'

/-- The host with a function applied to each label. What comes before an `@` stays, and what comes
after a second one is lost. -/
def mapLabels? (f : List Char → Option (List Char)) (host : List Char) : Option (List Char) := do
  let (before, name) := match splitOn '@' host with
    | a :: b :: _ => (a ++ ['@'], b)
    | _ => ([], host)
  let labels ← (splitOn '.' (name.map fun c => if isLabelDot c then '.' else c)).mapM f
  return before ++ joinWith '.' labels

def asciiMark : List Char := "xn--".toList

def toAscii (label : List Char) : List Char :=
  if label.any (0x7E < ·.toNat) then asciiMark ++ Punycode.encode label else label

def ofAscii? (label : List Char) : Option (List Char) :=
  if asciiMark.isPrefixOf label then Punycode.decode? (Text.lower (label.drop asciiMark.length))
  else some label

def mapHost (f : List Char → Option (List Char)) (p : Parts) : Parts :=
  if hasAsciiHost p then { p with hostname := (mapLabels? f p.hostname).getD p.hostname } else p

def normalize (address : String) : String :=
  let parts := mapHost (fun label => some (toAscii label)) (.of address.toList)
  String.ofList (encode parts.format)

def display (address : String) : String :=
  let parts := mapHost ofAscii? (.of address.toList)
  String.ofList (decode parts.format)

def refusedProtocols : List String :=
  ["vbscript:", "javascript:", "file:", "data:"]

def allowedData : List String :=
  ["data:image/gif;", "data:image/png;", "data:image/jpeg;", "data:image/webp;"]

def isAllowed (address : String) : Bool :=
  let s := String.ofList (Text.lower (Text.trimBy Text.isSpace address.toList))
  !refusedProtocols.any (fun p => s.startsWith p) || allowedData.any fun p => s.startsWith p

end RichMarkdown.Url
