import Mathlib.Data.List.Basic
import RichMarkdown.Proofs.Source.Filter

/-! Trees with other leaves, and those among them whose image references are replaced by the images
that they stand for. -/
namespace RichMarkdown.Source

mutual

def Content.mapLeaves (f : Leaf → Leaf) : Content → Content
  | .leaf l => .leaf (f l)
  | .parent p cs => .parent p (Content.mapLeavesOf f cs)

def Content.mapLeavesOf (f : Leaf → Leaf) : List Content → List Content
  | [] => []
  | c :: rest => c.mapLeaves f :: Content.mapLeavesOf f rest

end

namespace Content

variable {f : Leaf → Leaf} {types : List String} {cascade : Bool}

theorem mapLeavesOf_eq_map (cs : List Content) : mapLeavesOf f cs = cs.map (mapLeaves f) := by
  induction cs with
  | nil => rfl
  | cons c rest ih => rw [mapLeavesOf, ih, List.map_cons]

theorem mapLeaves_parent (p : Parent) (cs : List Content) :
    (parent p cs).mapLeaves f = parent p (cs.map (mapLeaves f)) := by
  rw [mapLeaves, mapLeavesOf_eq_map]

theorem nodes_mapLeaves (c : Content) : (c.mapLeaves f).nodes = c.nodes.map (mapLeaves f) := by
  induction c with
  | leaf l => rfl
  | parent p cs ih =>
    rw [mapLeaves_parent, nodes, nodes, List.map_cons, mapLeaves_parent, nodesOf_eq_flatMap,
      nodesOf_eq_flatMap, List.flatMap_map, List.map_flatMap]
    exact congrArg _ (List.flatMap_congr ih)

theorem nodesOf_map_mapLeaves (cs : List Content) :
    nodesOf (cs.map (mapLeaves f)) = (nodesOf cs).map (mapLeaves f) := by
  rw [nodesOf_eq_flatMap, nodesOf_eq_flatMap, List.flatMap_map, List.map_flatMap]
  exact List.flatMap_congr fun c _ => nodes_mapLeaves c

theorem filterMap_kept_map {cs : List Content} (h : ∀ c ∈ cs,
      (c.mapLeaves f).kept types cascade = (c.kept types cascade).map (mapLeaves f)) :
    (cs.map (mapLeaves f)).filterMap (kept types cascade) =
      (cs.filterMap (kept types cascade)).map (mapLeaves f) := by
  rw [List.filterMap_map, List.map_filterMap]
  exact List.filterMap_congr h

theorem kept_mapLeaves (hf : ∀ l : Leaf, types.contains (f l).type = types.contains l.type)
    (c : Content) :
    (c.mapLeaves f).kept types cascade = (c.kept types cascade).map (mapLeaves f) := by
  induction c with
  | leaf l =>
    rw [mapLeaves, kept_leaf, kept_leaf, hf]
    split <;> rfl
  | parent p cs ih =>
    have hkept := filterMap_kept_map ih
    have hemptied : emptied types (cs.map (mapLeaves f)) cascade = emptied types cs cascade := by
      rw [emptied, emptied, hkept, List.isEmpty_map, List.isEmpty_map]
    rw [mapLeaves_parent, kept_parent, kept_parent, hemptied, hkept]
    split
    · rfl
    · rw [Option.map_some, mapLeaves_parent]

end Content

namespace Node

def mapLeaves (f : Leaf → Leaf) : Node → Node
  | .root cs => .root (cs.map (Content.mapLeaves f))
  | .content c => .content (c.mapLeaves f)

theorem children_mapLeaves (f : Leaf → Leaf) (n : Node) :
    (n.mapLeaves f).children = n.children.map (Content.mapLeaves f) := by
  cases n with
  | root cs => rfl
  | content c => cases c with
    | leaf l => rfl
    | parent p cs => exact Content.mapLeavesOf_eq_map cs

theorem nodes_mapLeaves (f : Leaf → Leaf) (n : Node) :
    (n.mapLeaves f).nodes = n.nodes.map (mapLeaves f) := by
  rw [nodes, nodes, children_mapLeaves, Content.nodesOf_map_mapLeaves, List.map_cons, List.map_map,
    List.map_map]
  rfl

end Node

def Leaf.inlined (lookup : String → Option Definition) : Leaf → Leaf
  | .imageReference identifier label alt => match lookup identifier with
    | some d => .image d.url d.title alt
    | none => .imageReference identifier label alt
  | l => l

theorem Leaf.contains_inlined {types : List String}
    (himages : "image" ∈ types ↔ "imageReference" ∈ types) (lookup : String → Option Definition)
    (l : Leaf) : types.contains (l.inlined lookup).type = types.contains l.type := by
  cases l with
  | imageReference identifier label alt =>
    rw [inlined]
    cases lookup identifier with
    | none => rfl
    | some d => simpa [type] using himages
  | _ => rfl

namespace Node

/-- The tree with every image reference whose identifier is defined anywhere in it replaced by an
image with the address and the title of the last definition. -/
def inlined (n : Node) : Node :=
  n.mapLeaves (Leaf.inlined n.lastDefinition?)

theorem definition?_inlined (lookup : String → Option Definition) (n : Node) :
    (n.mapLeaves (Leaf.inlined lookup)).definition? = n.definition? := by
  cases n with
  | root cs => rfl
  | content c => cases c with
    | parent p cs => rfl
    | leaf l => cases l with
      | imageReference identifier label alt =>
        rw [mapLeaves, Content.mapLeaves, Leaf.inlined]
        cases lookup identifier <;> rfl
      | _ => rfl

theorem references_inlined (n : Node) : n.inlined.references = n.references := by
  have hdefinitions : n.inlined.definitions = n.definitions := by
    rw [definitions, definitions, inlined, nodes_mapLeaves, List.filterMap_map]
    exact List.filterMap_congr fun m _ => definition?_inlined n.lastDefinition? m
  rw [references_eq, references_eq, hdefinitions]

end Node

end RichMarkdown.Source
