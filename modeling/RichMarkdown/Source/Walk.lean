import RichMarkdown.Source.Basic

/-! Visiting every node of a source tree in document order, a parent before its children. -/
namespace RichMarkdown.Source

mutual

def Content.size : Content → Nat
  | .leaf _ => 1
  | .parent _ cs => 1 + Content.sizes cs

def Content.sizes : List Content → Nat
  | [] => 0
  | c :: rest => c.size + Content.sizes rest

end

theorem Content.sizes_append (a b : List Content) :
    Content.sizes (a ++ b) = Content.sizes a + Content.sizes b := by
  induction a with
  | nil => simp [Content.sizes]
  | cons c rest ih => simp [Content.sizes, ih, Nat.add_assoc]

theorem Content.size_eq (c : Content) : c.size = 1 + Content.sizes c.children := by
  cases c <;> simp [Content.size, Content.children, Content.sizes]

/-- The nodes still to be visited wait on a stack. The next one is taken from its top, and its
children take its place. -/
def walkStack : List Content → List Content
  | [] => []
  | c :: rest => c :: walkStack (c.children ++ rest)
  termination_by stack => Content.sizes stack
  decreasing_by
    simp only [Content.sizes, Content.sizes_append, Content.size_eq]
    omega

def Node.walk (n : Node) : List Node :=
  n :: (walkStack n.children).map .content

end RichMarkdown.Source
