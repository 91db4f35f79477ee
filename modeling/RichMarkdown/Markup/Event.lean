import RichMarkdown.Markup.Node
import RichMarkdown.Error

/-! A syntax tree as a sequence of events: elements are opened and closed, and what stands between
is inside. -/
namespace RichMarkdown.Markup

inductive Event where
  | opening (node : Node)
  | closing (type : String)
  | leaf (node : Node)

namespace Event

/-- The elements that are open, from the innermost out, each with what stands before it, and
the nodes of the innermost one. The last node comes first. -/
structure Open where
  nodes : List Node := []
  outer : List (Node × List Node) := []

/-- What an event does to the open elements. Only the number of elements counts, not the type
that is closed. -/
def apply (s : Open) : Event → Except BuildError Open
  | opening node => .ok { nodes := [], outer := (node, s.nodes) :: s.outer }
  | leaf node => .ok { s with nodes := node :: s.nodes }
  | closing _ => match s.outer with
    | [] => .error .unbalanced
    | (node, before) :: outer =>
      .ok { nodes := { node with children := s.nodes.reverse } :: before, outer }

def nest (events : List Event) : Except BuildError (List Node) := do
  let s ← events.foldlM apply {}
  if s.outer.isEmpty then return s.nodes.reverse else throw .unbalanced

end Event

end RichMarkdown.Markup
