import RichMarkdown.Source.References
import RichMarkdown.Source.Filter
import RichMarkdown.Proofs.Entries

/-! The nodes of a source tree in document order, and what walking, collecting definitions and
dropping types of nodes do to them. -/
namespace RichMarkdown.Source

@[elab_as_elim, induction_eliminator]
theorem Content.induction {motive : Content → Prop} (leaf : ∀ l, motive (.leaf l))
    (parent : ∀ p cs, (∀ c ∈ cs, motive c) → motive (.parent p cs)) (c : Content) : motive c :=
  match c with
  | .leaf l => leaf l
  | .parent p cs => parent p cs fun child _ => Content.induction leaf parent child

theorem Node.induction {motive : Node → Prop}
    (step : ∀ n, (∀ c ∈ n.children, motive (.content c)) → motive n) (n : Node) : motive n := by
  have hcontent : ∀ c, motive (.content c) := by
    intro c
    induction c with
    | leaf l => exact step _ (by simp [Node.children, Content.children])
    | parent p cs ih => exact step _ ih
  cases n with
  | root cs => exact step _ fun c _ => hcontent c
  | content c => exact hcontent c

mutual

/-- A node and all nodes below it, each one before its children. -/
def Content.nodes : Content → List Content
  | .leaf l => [.leaf l]
  | .parent p cs => .parent p cs :: Content.nodesOf cs

def Content.nodesOf : List Content → List Content
  | [] => []
  | c :: rest => c.nodes ++ Content.nodesOf rest

end

namespace Content

theorem nodesOf_eq_flatMap (cs : List Content) : nodesOf cs = cs.flatMap nodes := by
  induction cs with
  | nil => rfl
  | cons c rest ih => simp only [nodesOf, List.flatMap_cons, ih]

theorem nodesOf_append (cs ds : List Content) : nodesOf (cs ++ ds) = nodesOf cs ++ nodesOf ds := by
  simp only [nodesOf_eq_flatMap, List.flatMap_append]

theorem nodes_eq (c : Content) : c.nodes = c :: nodesOf c.children := by
  cases c <;> simp [nodes, children, nodesOf]

theorem self_mem_nodes (c : Content) : c ∈ c.nodes := by
  rw [nodes_eq]
  exact List.mem_cons_self

theorem mem_nodes_of_mem {p : Parent} {cs : List Content} {c d : Content} (hc : c ∈ cs)
    (hd : d ∈ c.nodes) : d ∈ (parent p cs).nodes := by
  rw [nodes_eq, children, nodesOf_eq_flatMap]
  exact List.mem_cons_of_mem _ (List.mem_flatMap_of_mem hc hd)

end Content

theorem walkStack_eq_nodesOf (stack : List Content) : walkStack stack = Content.nodesOf stack := by
  -- The stack changes from step to step, so the induction is that of the walk.
  induction stack using walkStack.induct with
  | case1 => simp [walkStack, Content.nodesOf]
  | case2 c rest ih =>
    rw [walkStack, ih, Content.nodesOf_append, Content.nodesOf, Content.nodes_eq, List.cons_append]

namespace Node

def nodes (n : Node) : List Node :=
  n :: (Content.nodesOf n.children).map .content

theorem walk_eq_nodes (n : Node) : n.walk = n.nodes := by
  rw [walk, nodes, walkStack_eq_nodesOf]

theorem nodes_eq (n : Node) : n.nodes = n :: n.children.flatMap fun c => (content c).nodes := by
  have hcontent : ∀ c : Content, (content c).nodes = c.nodes.map .content := by
    intro c
    rw [nodes, Content.nodes_eq, List.map_cons]
    rfl
  rw [nodes, Content.nodesOf_eq_flatMap, List.map_flatMap]
  simp only [hcontent]

def definitions (n : Node) : List Definition :=
  n.nodes.filterMap definition?

def lastDefinition? (n : Node) (identifier : String) : Option Definition :=
  (n.definitions.filter fun d => d.identifier = identifier).getLast?

theorem references_eq (n : Node) :
    n.references = Entries.ofPairs (n.definitions.map fun d => (d.identifier, d)) := by
  rw [references, definitions, walk_eq_nodes, List.map_filterMap]

theorem get?_references (n : Node) (identifier : String) :
    n.references.get? identifier = n.lastDefinition? identifier := by
  rw [references_eq, Entries.get?_ofPairs, lastDefinition?, List.filter_map, List.getLast?_map,
    Option.map_map]
  exact Option.map_id'

end Node

end RichMarkdown.Source
