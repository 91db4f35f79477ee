import RichMarkdown.Validation
import RichMarkdown.Text.Quoted

/-! What can go wrong on the way from markdown to a document. -/
namespace RichMarkdown

inductive BuildError where
  | shortTag
  | notANumber (text : String)
  | notNumeric (kind : String)
  | infinite
  | missingKey (name : String)
  | notText (kind : String)
  | invalid (i : Invalid)
  | unbalanced
  deriving DecidableEq

def Invalid.message (i : Invalid) : String :=
  toString i.issues.length ++ " validation errors for " ++ i.title

def BuildError.message : BuildError → String
  | shortTag => "string index out of range"
  | notANumber text => "invalid literal for int() with base 10: " ++ Text.quoted text
  | notNumeric kind =>
    "int() argument must be a string, a bytes-like object or a real number, not '" ++ kind ++ "'"
  | infinite => "cannot convert float infinity to integer"
  | missingKey name => Text.quoted name
  | notText kind => "'" ++ kind ++ "' object has no attribute 'split'"
  | invalid i => i.message
  | unbalanced => "Invalid token nesting"

inductive ConvertError where
  | general (text : String)
  /-- No rule claims the type of a node. The node is given by its written form, and a text of its
  own may replace the usual message. -/
  | unmapped (type dump : String) (note : Option String := none)
  | tooDeep (limit : Int) (note : Option String := none)
  | missingField (model field : String)
  | noSuchChild
  | missingKey (name : String)
  | invalid (i : Invalid)
  | markup (e : BuildError)
  /-- Conversions call for further conversions without end. -/
  | endless
  deriving DecidableEq

namespace ConvertError

def noteOr (note : Option String) (usual : String) : String :=
  match note with
  | some s => if s.isEmpty then usual else s
  | none => usual

def message : ConvertError → String
  | general text => text
  | unmapped type dump note =>
    noteOr note ("Can't find the rule for node: " ++ Text.quoted type ++ " with " ++ dump)
  | tooDeep limit note => noteOr note ("Source tree nesting exceeds max_depth=" ++ toString limit)
  | missingField model field => "'" ++ model ++ "' object has no attribute '" ++ field ++ "'"
  | noSuchChild => "list index out of range"
  | missingKey name => Text.quoted name
  | invalid i => i.message
  | markup e => e.message
  | endless => "maximum recursion depth exceeded"

def report (e : ConvertError) : Json :=
  let detail := ("detail", Json.str e.message)
  match e with
  | unmapped type dump _ => .obj [detail, ("node_type", .str type), ("node", .str dump)]
  | tooDeep limit _ => .obj [detail, ("max_depth", .int limit)]
  | _ => .obj [detail]

end ConvertError

end RichMarkdown
