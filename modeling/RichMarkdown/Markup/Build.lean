import RichMarkdown.Markup.Node
import RichMarkdown.Source.Basic
import RichMarkdown.Source.Identifier
import RichMarkdown.Json.Display
import RichMarkdown.Error

/-! From the syntax tree of a markdown text to its source tree. -/
namespace RichMarkdown.Markup

open Source (Content Leaf Parent HeadingDepth Definition normalizeIdentifier)

inductive Element where
  | paragraph
  | heading
  | blockquote
  | bulletList
  | orderedList
  | listItem
  | fence
  | codeBlock
  | thematicBreak
  | definition
  | table
  | tableRow
  | tableCell
  | footnote
  | group
  | text
  | softBreak
  | hardBreak
  | emphasis
  | strong
  | delete
  | inlineCode
  | link
  | image
  | footnoteReference
  | anchor
  deriving DecidableEq

def Element.ofType? : String → Option Element
  | "paragraph" => some paragraph
  | "heading" => some heading
  | "blockquote" => some blockquote
  | "bullet_list" => some bulletList
  | "ordered_list" => some orderedList
  | "list_item" => some listItem
  | "fence" => some fence
  | "code_block" => some codeBlock
  | "hr" => some thematicBreak
  | "definition" => some definition
  | "table" => some table
  | "thead" => some group
  | "tbody" => some group
  | "tr" => some tableRow
  | "th" => some tableCell
  | "td" => some tableCell
  | "footnote_block" => some group
  | "footnote" => some footnote
  | "footnote_reference" => some footnote
  | "inline" => some group
  | "text" => some text
  | "text_special" => some text
  | "softbreak" => some softBreak
  | "hardbreak" => some hardBreak
  | "em" => some emphasis
  | "strong" => some strong
  | "s" => some delete
  | "code_inline" => some inlineCode
  | "link" => some link
  | "image" => some image
  | "footnote_ref" => some footnoteReference
  | "footnote_anchor" => some anchor
  | _ => none

abbrev Build := ExceptT BuildError (StateM (List String))

def joinTexts : List Content → List Content
  | [] => []
  | .leaf (.text a) :: rest =>
    match joinTexts rest with
    | .leaf (.text b) :: more => .text (a ++ b) :: more
    | joined => .text a :: joined
  | c :: rest => c :: joinTexts rest

def wholeNumber : Json → Except BuildError Int
  | .int n => .ok n
  | .bool b => .ok (if b then 1 else 0)
  | .decimal d => match d.truncate? with
    | some n => .ok n
    | none => .error .infinite
  | .str s => match Text.wholeNumber? s with
    | some n => .ok n
    | none => .error (.notANumber s)
  | j => .error (.notNumeric j.kindName)

def identifierOf : Json → Except BuildError String
  | .str s => .ok (normalizeIdentifier s)
  | j => .error (.notText j.kindName)

def checked {α : Type} (title : String) (c : Check α) : Except BuildError α :=
  (c.titled title).mapError .invalid

def nonEmpty (s : List Char) : Option String :=
  if s.isEmpty then none else some (String.ofList s)

/-- A block of code. The first word of its info names the language. -/
def codeOf (info content : String) : Leaf :=
  let info := Text.trimBy Text.isSpace info.toList
  let lang := info.takeWhile (· ≠ ' ')
  let rest := (info.dropWhile (· ≠ ' ')).drop 1
  .code (nonEmpty lang) (nonEmpty (Text.trimBy Text.isSpace rest))
    (String.ofList (content.toList.reverse.dropWhile (· = '\n')).reverse)

def headingNumber (tag : String) : Except BuildError Int :=
  match tag.toList with
  | _ :: c :: _ => wholeNumber (.str (String.singleton c))
  | _ => .error .shortTag

def depthOf (n : Int) : Except BuildError HeadingDepth :=
  checked "Heading" (match HeadingDepth.ofInt? n with
    | some d => .ok d
    | none => .under (.key "depth") (.fail .notAlternative))

def startOf (attrs : List (String × Json)) : Except BuildError Int :=
  wholeNumber ((Entries.get? "start" attrs).getD (.int 1))

def given? (name : String) (values : List (String × Json)) : Option Json :=
  (Entries.get? name values).filter Json.isTruthy

def required (name : String) (values : List (String × Json)) : Except BuildError Json :=
  match Entries.get? name values with
  | some j => .ok j
  | none => .error (.missingKey name)

def definitionOf (data : List (String × Json)) : Except BuildError Definition := do
  let identifier ← identifierOf (← required "id" data)
  let url ← required "url" data
  let title := (given? "title" data).getD .null
  checked "Definition" <|
    ((Check.map2 (Definition.mk identifier) (.nullable "label" .text data)
      (.under (.key "url") (.text url))).app
      (.under (.key "title") (.optional .text title)))

def footnoteIdentifier (data : List (String × Json)) : Except BuildError String :=
  match given? "label" data with
  | some label => identifierOf label
  | none => .ok ((Entries.get? "id" data).getD (.str "")).asText

def labelOf (title : String) (data : List (String × Json)) :
    Except BuildError (Option String) :=
  checked title (.nullable "label" .text data)

def titleOf (attrs : List (String × Json)) : Option String :=
  (given? "title" attrs).map Json.asText

def urlOf (name : String) (attrs : List (String × Json)) : String :=
  ((Entries.get? name attrs).getD (.str "")).asText

def linkOf (attrs data : List (String × Json)) : Except BuildError Parent :=
  match given? "label" data with
  | some label => do
    return .linkReference (← identifierOf label) (some label.asText)
  | none => .ok (.link (urlOf "href" attrs) (titleOf attrs))

def imageOf (alt : String) (attrs data : List (String × Json)) : Except BuildError Leaf :=
  match given? "label" data with
  | some label => do
    return .imageReference (← identifierOf label) (some label.asText) (some alt)
  | none => .ok (.image (urlOf "src" attrs) (titleOf attrs) (some alt))

def wrap (p : Parent) (children : Build (List Content)) : Build (List Content) := do
  return [.parent p (← children)]

/-- What an element becomes. Its children are built where the element calls for them; a text
without content becomes nothing. -/
def Element.build (e : Element) (node : Node) (children : Build (List Content)) :
    Build (List Content) :=
  match e with
  | paragraph => wrap .paragraph children
  | heading => do
    let n ← headingNumber node.tag
    let cs ← children
    return [.parent (.heading (← depthOf n)) cs]
  | blockquote => wrap .blockquote children
  | bulletList => wrap (.list false none) children
  | orderedList => do
    let start ← startOf node.attrs
    wrap (.list true (some start)) children
  | listItem => wrap .listItem children
  | fence => return [.leaf (codeOf node.info node.content)]
  | codeBlock => return [.leaf (codeOf "" node.content)]
  | thematicBreak => return [.leaf .thematicBreak]
  | definition => return [.leaf (.definition (← definitionOf node.data))]
  | table => wrap .table children
  | tableRow => wrap .tableRow children
  | tableCell => wrap .tableCell children
  | footnote => do
    let identifier ← footnoteIdentifier node.data
    let cs ← children
    let label ← labelOf "FootnoteDefinition" node.data
    return [.parent (.footnoteDefinition identifier label) cs]
  | group => children
  | text => return if node.content.isEmpty then [] else [.text node.content]
  | softBreak => return [.text "\n"]
  | hardBreak => return [.leaf .hardBreak]
  | emphasis => wrap .emphasis children
  | strong => wrap .strong children
  | delete => wrap .delete children
  | inlineCode => return [.leaf (.inlineCode node.content)]
  | link => do
    let cs ← children
    return [.parent (← linkOf node.attrs node.data) cs]
  | image => return [.leaf (← imageOf node.plainText node.attrs node.data)]
  | footnoteReference => do
    let identifier ← footnoteIdentifier node.data
    let label ← labelOf "FootnoteReference" node.data
    return [.leaf (.footnoteReference identifier label)]
  | anchor => return []

mutual

/-- What a node becomes. A node of an unknown type becomes nothing, which is logged. -/
def buildNode : Node → Build (List Content)
  | ⟨type, tag, content, info, attrs, data, children⟩ =>
    match Element.ofType? type with
    | some e =>
      e.build ⟨type, tag, content, info, attrs, data, children⟩ do
        return joinTexts (← buildNodes children)
    | none => do
      modify (· ++ ["Skipping unsupported markdown node " ++ Text.quoted type])
      return []

def buildNodes : List Node → Build (List Content)
  | [] => return []
  | n :: rest => do
    let first ← buildNode n
    let others ← buildNodes rest
    return first ++ others

end

/-- The source tree of a syntax tree, of which the top node stands for its children whatever its
type, and the messages on the way. -/
def build (root : Node) : Except BuildError Source.Node × List String :=
  let action : Build Source.Node := do return .root (joinTexts (← buildNodes root.children))
  action.run []

end RichMarkdown.Markup
