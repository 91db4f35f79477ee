import RichMarkdown.Source.Dump
import RichMarkdown.Validation

/-! Reading a source tree out of JSON. Fields may be coerced once, unknown fields are passed over,
and all issues are reported with the types of the nodes that they were found in. -/
namespace RichMarkdown.Source

/-- Beyond this size a number is turned down as too large before it is compared. -/
def numberLimit : Int := 9223372036854775808

/-- A heading level. Numbers that equal one of the levels count, texts do not. -/
def readDepth (j : Json) : Check HeadingDepth :=
  let ofInt (n : Int) : Check HeadingDepth :=
    match HeadingDepth.ofInt? n with
    | some d => .ok d
    | none => Check.fail .notAlternative
  match j with
  | .int n => if -numberLimit ≤ n && n < numberLimit then ofInt n else Check.fail .oversizedNumber
  | .bool b => ofInt (if b then 1 else 0)
  | .decimal d =>
    match Check.whole d with
    | .ok n => ofInt n
    | .error _ => Check.fail .notAlternative
  | _ => Check.fail .notAlternative

def readDefinition (fields : List (String × Json)) : Check Definition :=
  ((Check.map2 Definition.mk (.required "identifier" .text fields)
    (.nullable "label" .text fields)).app
    (.required "url" .text fields)).app
    (.nullable "title" .text fields)

def readLeaf? (type : String) (fields : List (String × Json)) : Option (Check Leaf) :=
  match type with
  | "text" => some ((Check.required "value" .text fields).map .text)
  | "inlineCode" => some ((Check.required "value" .text fields).map .inlineCode)
  | "break" => some (.ok .hardBreak)
  | "thematicBreak" => some (.ok .thematicBreak)
  | "code" => some ((Check.map2 Leaf.code (.nullable "lang" .text fields)
      (.nullable "meta" .text fields)).app (.required "value" .text fields))
  | "image" => some ((Check.map2 Leaf.image (.required "url" .text fields)
      (.nullable "title" .text fields)).app (.nullable "alt" .text fields))
  | "imageReference" => some ((Check.map2 Leaf.imageReference (.required "identifier" .text fields)
      (.nullable "label" .text fields)).app (.nullable "alt" .text fields))
  | "definition" => some ((readDefinition fields).map .definition)
  | "footnoteReference" => some (Check.map2 Leaf.footnoteReference
      (.required "identifier" .text fields) (.nullable "label" .text fields))
  | _ => none

def readParent? (type : String) (fields : List (String × Json)) : Option (Check Parent) :=
  match type with
  | "paragraph" => some (.ok .paragraph)
  | "heading" => some ((Check.required "depth" readDepth fields).map .heading)
  | "blockquote" => some (.ok .blockquote)
  | "list" => some (Check.map2 Parent.list (.withDefault "ordered" .flag false fields)
      (.nullable "start" .number fields))
  | "listItem" => some (.ok .listItem)
  | "table" => some (.ok .table)
  | "tableRow" => some (.ok .tableRow)
  | "tableCell" => some (.ok .tableCell)
  | "emphasis" => some (.ok .emphasis)
  | "strong" => some (.ok .strong)
  | "delete" => some (.ok .delete)
  | "link" => some (Check.map2 Parent.link (.required "url" .text fields)
      (.nullable "title" .text fields))
  | "linkReference" => some (Check.map2 Parent.linkReference (.required "identifier" .text fields)
      (.nullable "label" .text fields))
  | "footnoteDefinition" => some (Check.map2 Parent.footnoteDefinition
      (.required "identifier" .text fields) (.nullable "label" .text fields))
  | _ => none

def readTyped (type : String) (fields : List (String × Json)) (children : Check (List Content)) :
    Check Content :=
  match readLeaf? type fields with
  | some l => .under (.key type) (l.map .leaf)
  | none => match readParent? type fields with
    | some p => .under (.key type) (.map2 Content.parent p children)
    | none => .fail .kindUnknown

mutual

def readContent : Json → Check Content
  | .obj fields =>
    match Entries.get? "type" fields with
    | some (.str type) => readTyped type fields (readChildren fields)
    | some _ => .fail .kindUnknown
    | none => .fail .kindMissing
  | _ => .fail .notNode

/-- The children among the fields of an object. None are given by leaving the field out. -/
def readChildren : List (String × Json) → Check (List Content)
  | [] => .ok []
  | (name, j) :: rest =>
    if name = "children" then .under (.key name) (readList j) else readChildren rest

def readList : Json → Check (List Content)
  | .arr js => readItems 0 js
  | _ => .fail .notList

def readItems (n : Nat) : List Json → Check (List Content)
  | [] => .ok []
  | j :: rest => .map2 List.cons (.under (.index n) (readContent j)) (readItems (n + 1) rest)

end

def readNode (j : Json) : Check Node :=
  match j with
  | .obj fields =>
    match Entries.get? "type" fields with
    | some (.str "root") => .under (.key "root") ((readChildren fields).map .root)
    | _ => (readContent j).map .content
  | _ => .fail .notNode

def Node.read (j : Json) : Except Invalid Node :=
  (readNode j).titled "SourceNode"

def Definition.read (j : Json) : Except Invalid Definition :=
  Check.titled "Definition" (match j with
    | .obj fields =>
      let type : Check Unit :=
        match Entries.get? "type" fields with
        | some (.str "definition") => .ok ()
        | some _ => .under (.key "type") (.fail .notAlternative)
        | none => .ok ()
      .map2 (fun _ d => d) type (readDefinition fields)
    | _ => .fail .notModel)

end RichMarkdown.Source
