import RichMarkdown.Rule.Basic

/-! An ordered collection of named rules. A type of source nodes is looked up through an index,
which is built on the first lookup and forgotten when the rules change. -/
namespace RichMarkdown

structure Registry where
  rules : Entries Rule
  index : Option (Entries String) := none

namespace Registry

def ofPairs (pairs : List (String × Rule)) : Registry :=
  { rules := Entries.ofPairs pairs }

def names (r : Registry) : List String :=
  r.rules.keys

def get? (name : String) (r : Registry) : Option Rule :=
  r.rules.get? name

def contains (name : String) (r : Registry) : Bool :=
  r.rules.has name

/-- Puts a rule at the end, or in place of the one of that name. -/
def add (name : String) (rule : Rule) (r : Registry) : Registry :=
  { rules := r.rules.put name rule, index := none }

def addMessages (name : String) (r : Registry) : List String :=
  if r.contains name then ["Replacing rule " ++ Text.quoted name] else []

def remove (name : String) (r : Registry) : Registry :=
  if r.contains name then { rules := r.rules.erase name, index := none } else r

/-- Adds the types that a rule claims to an index, unless an earlier rule has them. -/
def claim (name : String) (types : List String) (index : Entries String) : Entries String :=
  types.foldl (fun ix type => if ix.has type then ix else ix.put type name) index

def buildIndex (rules : Entries Rule) : Entries String :=
  rules.foldl (fun ix p => claim p.1 p.2.claims ix) []

def indexed (r : Registry) : Registry :=
  match r.index with
  | some _ => r
  | none => { r with index := some (buildIndex r.rules) }

def find (type : String) (r : Registry) : Except ConvertError (Option (String × Rule)) × Registry :=
  let r := r.indexed
  match (r.index.getD []).get? type with
  | none => (.ok none, r)
  | some name => match r.get? name with
    | some rule => (.ok (some (name, rule)), r)
    | none => (.error (.missingKey name), r)

end Registry

end RichMarkdown
