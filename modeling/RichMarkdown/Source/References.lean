import RichMarkdown.Source.Walk
import RichMarkdown.Entries

/-! The definitions of a tree by identifier. -/
namespace RichMarkdown.Source

def Node.definition? : Node → Option Definition
  | .content (.leaf (.definition d)) => some d
  | _ => none

/-- The last definition of each identifier, in the order in which the identifiers first occur. -/
def Node.references (n : Node) : Entries Definition :=
  Entries.ofPairs (n.walk.filterMap fun m => m.definition?.map fun d => (d.identifier, d))

end RichMarkdown.Source
