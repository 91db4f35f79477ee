import RichMarkdown.Source.Basic

/-! Dropping subtrees by the type of their top node. -/
namespace RichMarkdown.Source

mutual

/-- What is left of a node of no listed type, and how many subtrees were dropped below it. With
`cascade`, a parent that loses all its children goes too; one that had none stays. -/
def prune (types : List String) (cascade : Bool) : Content → Option Content × Nat
  | .leaf l => (some (.leaf l), 0)
  | .parent p [] => (some (.parent p []), 0)
  | .parent p (c :: rest) =>
    let (kept, dropped) := pruneAll types cascade (c :: rest)
    (if cascade && kept.isEmpty then none else some (.parent p kept), dropped)

def pruneAll (types : List String) (cascade : Bool) : List Content → List Content × Nat
  | [] => ([], 0)
  | c :: rest =>
    let (kept, dropped) := pruneAll types cascade rest
    if types.contains c.type then (kept, dropped + 1)
    else
      let (own, below) := prune types cascade c
      (own.toList ++ kept, below + dropped)

end

/-- Drops the subtrees of the listed types below the top node, which always stays. Returns how
many were dropped for their type. -/
def Node.remove (types : List String) (cascade : Bool) : Node → Node × Nat
  | .root cs =>
    let (kept, dropped) := pruneAll types cascade cs
    (.root kept, dropped)
  | .content (.parent p cs) =>
    let (kept, dropped) := pruneAll types cascade cs
    (.content (.parent p kept), dropped)
  | .content (.leaf l) => (.content (.leaf l), 0)

end RichMarkdown.Source
