import Mathlib.Data.List.Basic
import Mathlib.Data.List.Induction
import RichMarkdown.Proofs.Source.Paths

/-! The walk over a source tree step by step: what waits on its stack, when it ends, and in which
order it visits the nodes. -/
namespace RichMarkdown.Source

/-- A node with the path that leads to it in a tree, where equal nodes may stand at several paths. -/
structure Spot where
  path : List Nat
  node : Node

namespace Spot

def children (s : Spot) : List Spot :=
  s.node.children.zipIdx.map fun x => ⟨s.path ++ [x.2], .content x.1⟩

def at? (s : Spot) (path : List Nat) : Option Spot :=
  (s.node.at? path).map fun m => ⟨s.path ++ path, m⟩

def all (s : Spot) : List Spot :=
  s.node.paths.filterMap s.at?

theorem at?_nil (s : Spot) : s.at? [] = some s := by
  rw [at?, List.append_nil]
  rfl

theorem at?_cons {s : Spot} {c : Content} {place : Nat} (h : s.node.children[place]? = some c)
    (path : List Nat) : s.at? (place :: path) = at? ⟨s.path ++ [place], .content c⟩ path := by
  rw [at?, at?, Node.at?_cons h, List.append_assoc, List.singleton_append]

theorem all_eq (s : Spot) : s.all = s :: s.children.flatMap all := by
  rw [all, Node.paths_eq, List.filterMap_cons_some s.at?_nil, List.filterMap_flatMap, children,
    List.flatMap_map]
  apply congrArg (s :: ·)
  apply List.flatMap_congr
  rintro ⟨c, place⟩ hmem
  rw [List.filterMap_map, all]
  exact List.filterMap_congr fun path _ => at?_cons (List.mem_zipIdx_iff_getElem?.mp hmem) path

theorem map_node_all (s : Spot) : s.all.map node = s.node.nodes := by
  have hnodes : s.node.nodes = (s.node.paths.map (s.node.at? ·)).filterMap id := by
    rw [Node.map_at?_paths, List.filterMap_map]
    exact List.filterMap_some.symm
  rw [hnodes, all, List.map_filterMap, List.filterMap_map]
  apply List.filterMap_congr
  intro path _
  exact (Option.map_map _ _ _).trans Option.map_id'

theorem map_path_all (s : Spot) : s.all.map path = s.node.paths.map (s.path ++ ·) := by
  rw [all, List.map_filterMap, ← List.filterMap_eq_map]
  apply List.filterMap_congr
  intro path hpath
  obtain ⟨m, hm⟩ := Option.isSome_iff_exists.mp (Node.mem_paths_iff.mp hpath)
  rw [at?, hm]
  rfl

end Spot

/-- A walk under way: the nodes on its stack, the next one last, and the nodes visited so far. -/
structure Walk where
  waiting : List Spot
  visited : List Spot

namespace Walk

def start (n : Node) : Walk :=
  ⟨[⟨[], n⟩], []⟩

/-- Takes the last node from the stack, visits it, and puts its children there, the first of them
last. There is no step once the stack is empty. -/
def step (w : Walk) : Option Walk :=
  w.waiting.getLast?.map fun s =>
    ⟨w.waiting.dropLast ++ s.children.reverse, w.visited ++ [s]⟩

def after : Nat → Walk → Option Walk
  | 0, w => some w
  | steps + 1, w => w.step.bind (after steps)

/-- What is still to be visited: the nodes on the stack, the last one first, each with all nodes
below it. -/
def pending (w : Walk) : List Spot :=
  w.waiting.reverse.flatMap Spot.all

theorem pending_start (n : Node) : (start n).pending = (⟨[], n⟩ : Spot).all :=
  List.append_nil _

theorem pending_eq_nil_iff {w : Walk} : w.pending = [] ↔ w.waiting = [] := by
  constructor
  · intro h
    rw [pending, List.flatMap_eq_nil_iff] at h
    refine List.eq_nil_iff_forall_not_mem.mpr fun s hs => ?_
    have hall := h s (List.mem_reverse.mpr hs)
    rw [Spot.all_eq] at hall
    cases hall
  · intro h
    rw [pending, h]
    rfl

theorem step_of_pending {w : Walk} {s : Spot} {rest : List Spot} (h : w.pending = s :: rest) :
    ∃ next, w.step = some next ∧ next.visited = w.visited ++ [s] ∧ next.pending = rest := by
  obtain ⟨waiting, visited⟩ := w
  cases waiting using List.reverseRecOn with
  | nil => cases h
  | append_singleton waiting top =>
    rw [pending, List.reverse_concat, List.flatMap_cons, Spot.all_eq, List.cons_append] at h
    obtain ⟨rfl, rfl⟩ := List.cons.inj h
    refine ⟨⟨waiting ++ top.children.reverse, visited ++ [top]⟩, ?_, rfl, ?_⟩
    · simp [step]
    · simp [pending]

theorem after_of_le {w : Walk} {steps : Nat} (h : steps ≤ w.pending.length) :
    ∃ last, w.after steps = some last ∧ last.visited = w.visited ++ w.pending.take steps ∧
      last.pending = w.pending.drop steps := by
  -- The stack changes with the first step, so the induction is over all walks at once.
  induction steps generalizing w with
  | zero => exact ⟨w, rfl, by simp, rfl⟩
  | succ steps ih =>
    obtain ⟨s, rest, hpending⟩ := List.exists_cons_of_length_pos (Nat.zero_lt_of_lt h)
    obtain ⟨next, hstep, hvisited, rfl⟩ := step_of_pending hpending
    rw [hpending] at h
    obtain ⟨last, hlast, hvisited', hpending'⟩ := ih (Nat.le_of_succ_le_succ h)
    refine ⟨last, ?_, ?_, ?_⟩
    · rw [after, hstep]
      exact hlast
    · rw [hvisited', hvisited, hpending, List.take_succ_cons, List.append_assoc]
      rfl
    · rw [hpending', hpending, List.drop_succ_cons]

/-- A moment of the walk: below a block with two texts, the right one waits under the left one. -/
example :
    let n := Node.root [.parent .paragraph [.text "a", .text "b"], .parent .blockquote []]
    ((start n).after 2).map (fun w => (w.waiting.map Spot.path, w.visited.map Spot.path)) =
      some ([[1], [0, 1], [0, 0]], [[], [0]]) := by
  decide

end Walk

namespace Node

/-- The walk takes as many steps as the tree has nodes and then has an empty stack. It visits them in
document order: a node first, then from left to right what its children lead to. So it comes along
each path to a node once, and along the path to a node above it earlier. -/
theorem walk_preorder (n : Node) :
    (∀ steps ≤ n.walk.length, ∃ w, (Walk.start n).after steps = some w ∧
      w.visited.map Spot.path = n.paths.take steps ∧
      w.visited.map Spot.node = n.walk.take steps ∧
      (w.waiting = [] ↔ steps = n.walk.length)) ∧
    n.walk = n.nodes ∧
    n.nodes = n :: n.children.flatMap (fun c => (content c).nodes) ∧
    n.paths.map (n.at? ·) = n.walk.map some ∧
    n.paths.Nodup ∧
    (∀ path, path ∈ n.paths ↔ (n.at? path).isSome) ∧
    ∀ path ∈ n.paths, ∀ above, above <+: path → above ≠ path →
      n.paths.idxOf above < n.paths.idxOf path := by
  have hpaths : (Walk.start n).pending.map Spot.path = n.paths := by
    rw [Walk.pending_start, Spot.map_path_all]
    exact List.map_id' _
  have hnodes : (Walk.start n).pending.map Spot.node = n.walk := by
    rw [Walk.pending_start, Spot.map_node_all, walk_eq_nodes]
  refine ⟨fun steps hsteps => ?_, n.walk_eq_nodes, n.nodes_eq, ?_, ?_, fun _ => mem_paths_iff,
    fun _ hpath _ => idxOf_paths_lt hpath⟩
  · rw [← hnodes, List.length_map] at hsteps
    obtain ⟨w, hw, hvisited, hpending⟩ := Walk.after_of_le hsteps
    refine ⟨w, hw, ?_, ?_, ?_⟩
    · rw [hvisited, ← hpaths, ← List.map_take]
      rfl
    · rw [hvisited, ← hnodes, ← List.map_take]
      rfl
    · rw [← Walk.pending_eq_nil_iff, hpending, List.drop_eq_nil_iff, ← hnodes, List.length_map]
      omega
  · rw [map_at?_paths, walk_eq_nodes]
  · refine n.paths_pairwise.imp fun {before after} hbefore => ?_
    rintro rfl
    exact hbefore (List.prefix_refl _)

end Node

end RichMarkdown.Source
