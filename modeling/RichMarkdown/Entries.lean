/-! Key and value pairs in order of first insertion: writing to a key that is there keeps its
place. -/
namespace RichMarkdown

/-- Entries in order. The operations below keep the keys distinct. -/
abbrev Entries (α : Type) := List (String × α)

namespace Entries

variable {α : Type}

def get? (key : String) : Entries α → Option α
  | [] => none
  | (k, v) :: rest => if k = key then some v else get? key rest

def has (key : String) (es : Entries α) : Bool :=
  (es.get? key).isSome

def keys (es : Entries α) : List String :=
  es.map (·.1)

def put (key : String) (value : α) : Entries α → Entries α
  | [] => [(key, value)]
  | (k, v) :: rest => if k = key then (k, value) :: rest else (k, v) :: put key value rest

def erase (key : String) : Entries α → Entries α
  | [] => []
  | (k, v) :: rest => if k = key then rest else (k, v) :: erase key rest

def ofPairs (pairs : List (String × α)) : Entries α :=
  pairs.foldl (fun es p => put p.1 p.2 es) []

end Entries

end RichMarkdown
