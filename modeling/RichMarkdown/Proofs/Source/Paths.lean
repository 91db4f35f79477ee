import Mathlib.Data.List.Basic
import RichMarkdown.Proofs.Source.Nodes

/-! The places of the nodes in a source tree. A path leads from the top node down to a node: it says
for each step which child comes next. -/
namespace RichMarkdown.Source

mutual

def Content.paths : Content → List (List Nat)
  | .leaf _ => [[]]
  | .parent _ cs => [] :: Content.pathsFrom 0 cs

def Content.pathsFrom (place : Nat) : List Content → List (List Nat)
  | [] => []
  | c :: rest => c.paths.map (place :: ·) ++ Content.pathsFrom (place + 1) rest

end

theorem Content.pathsFrom_eq (place : Nat) (cs : List Content) :
    pathsFrom place cs = (cs.zipIdx place).flatMap fun x => x.1.paths.map (x.2 :: ·) := by
  induction cs generalizing place with
  | nil => rfl
  | cons c rest ih => rw [pathsFrom, ih, List.zipIdx_cons, List.flatMap_cons]

namespace Node

def paths (n : Node) : List (List Nat) :=
  [] :: Content.pathsFrom 0 n.children

def at? : List Nat → Node → Option Node
  | [], n => some n
  | place :: path, n => n.children[place]?.bind fun c => at? path (.content c)

/-- The nodes that a path passes, from the one below the top to the one that it leads to. -/
def along : List Nat → Node → List Node
  | [], _ => []
  | place :: path, n => match n.children[place]? with
    | some c => .content c :: along path (.content c)
    | none => []

def bare : Node → Node
  | root _ => root []
  | content (.leaf l) => content (.leaf l)
  | content (.parent p _) => content (.parent p [])

theorem paths_content (c : Content) : (content c).paths = c.paths := by
  cases c with
  | leaf l => rfl
  | parent p cs => rfl

theorem paths_eq (n : Node) :
    n.paths = [] :: n.children.zipIdx.flatMap fun x => (content x.1).paths.map (x.2 :: ·) := by
  rw [paths, Content.pathsFrom_eq]
  simp only [paths_content]

variable {n : Node} {c : Content} {place : Nat}

theorem at?_cons (h : n.children[place]? = some c) (path : List Nat) :
    n.at? (place :: path) = (content c).at? path := by
  rw [at?, h]
  rfl

theorem along_cons (h : n.children[place]? = some c) (path : List Nat) :
    n.along (place :: path) = content c :: (content c).along path := by
  rw [along, h]

theorem nil_mem_paths (n : Node) : [] ∈ n.paths :=
  List.mem_cons_self

theorem cons_mem_paths_iff {path : List Nat} : place :: path ∈ n.paths ↔
    ∃ c, n.children[place]? = some c ∧ path ∈ (content c).paths := by
  rw [paths_eq]
  simp only [List.mem_cons, reduceCtorEq, false_or, List.mem_flatMap, List.mem_map]
  constructor
  · rintro ⟨⟨c, i⟩, hmem, q, hq, heq⟩
    cases heq
    exact ⟨c, List.mem_zipIdx_iff_getElem?.mp hmem, hq⟩
  · rintro ⟨c, hc, hpath⟩
    exact ⟨(c, place), List.mem_zipIdx_iff_getElem?.mpr hc, path, hpath, rfl⟩

theorem mem_paths_iff {path : List Nat} : path ∈ n.paths ↔ (n.at? path).isSome := by
  induction path generalizing n with
  | nil => simp [at?, nil_mem_paths]
  | cons place path ih =>
    rw [cons_mem_paths_iff, at?]
    cases n.children[place]? with
    | none => simp
    | some c => simp [ih]

theorem map_at?_paths (n : Node) : n.paths.map (n.at? ·) = n.nodes.map some := by
  induction n using Node.induction with
  | step n ih =>
    rw [paths_eq, nodes_eq, List.map_cons, List.map_cons, List.map_flatMap, List.map_flatMap,
      ← List.zipIdx_map_fst 0 n.children, List.flatMap_map, List.zipIdx_map_fst]
    apply congrArg (some n :: ·)
    apply List.flatMap_congr
    rintro ⟨c, place⟩ hmem
    have hc : n.children[place]? = some c := List.mem_zipIdx_iff_getElem?.mp hmem
    rw [← ih c (List.mem_of_getElem? hc), List.map_map]
    exact List.map_congr_left fun path _ => at?_cons hc path

/-- In document order no path stands behind itself or behind one that goes on from it. -/
theorem paths_pairwise (n : Node) : n.paths.Pairwise fun before after => ¬after <+: before := by
  induction n using Node.induction with
  | step n ih =>
    have hplaces : n.children.zipIdx.Pairwise fun x y => x.2 < y.2 := by
      rw [← List.pairwise_map, List.zipIdx_map_snd]
      exact List.pairwise_lt_range'
    rw [paths_eq, List.pairwise_cons, List.pairwise_flatMap]
    refine ⟨?_, ?_, hplaces.imp ?_⟩
    · intro path hpath
      obtain ⟨x, -, hpath⟩ := List.mem_flatMap.mp hpath
      obtain ⟨rest, -, rfl⟩ := List.mem_map.mp hpath
      simp
    · rintro ⟨c, place⟩ hmem
      rw [List.pairwise_map]
      have hc : n.children[place]? = some c := List.mem_zipIdx_iff_getElem?.mp hmem
      refine (ih c (List.mem_of_getElem? hc)).imp fun hbelow => ?_
      rwa [List.cons_prefix_cons, eq_self, true_and]
    · rintro x y hlt path hpath other hother hunder
      obtain ⟨path, -, rfl⟩ := List.mem_map.mp hpath
      obtain ⟨other, -, rfl⟩ := List.mem_map.mp hother
      exact Nat.ne_of_gt hlt (List.cons_prefix_cons.mp hunder).1

theorem at?_append (path rest : List Nat) (n : Node) :
    n.at? (path ++ rest) = (n.at? path).bind (·.at? rest) := by
  induction path generalizing n with
  | nil => rfl
  | cons place path ih =>
    rw [List.cons_append, at?, at?]
    cases n.children[place]? with
    | none => rfl
    | some c => exact ih _

theorem above_mem_paths {path above : List Nat} (h : path ∈ n.paths)
    (hunder : above <+: path) : above ∈ n.paths := by
  obtain ⟨rest, rfl⟩ := hunder
  rw [mem_paths_iff, at?_append] at h
  exact mem_paths_iff.mpr (Option.isSome_of_isSome_bind h)

theorem idxOf_paths_lt {path above : List Nat} (h : path ∈ n.paths) (hunder : above <+: path)
    (hne : above ≠ path) : n.paths.idxOf above < n.paths.idxOf path := by
  have habove := above_mem_paths h hunder
  rcases Nat.lt_trichotomy (n.paths.idxOf above) (n.paths.idxOf path) with hlt | heq | hgt
  · exact hlt
  · exact absurd ((List.idxOf_inj habove).mp heq) hne
  · have hlater := List.pairwise_iff_getElem.mp n.paths_pairwise _ _
      (List.idxOf_lt_length_of_mem h) (List.idxOf_lt_length_of_mem habove) hgt
    rw [List.getElem_idxOf, List.getElem_idxOf] at hlater
    exact absurd hunder hlater

end Node

end RichMarkdown.Source
