import Mathlib.Algebra.GroupWithZero.Nat
import Mathlib.Data.List.Basic
import RichMarkdown.Proofs.Source.Filter
import RichMarkdown.Proofs.Source.Paths

/-! Which nodes of a source tree are left when types of nodes are dropped, said of each node by what
stands above and below it, and how many subtrees are dropped. -/
namespace RichMarkdown.Source

theorem flatMap_filter_of_nil {α β : Type} {keep : α → Bool} {f : α → List β} {l : List α}
    (h : ∀ x ∈ l, keep x = false → f x = []) : (l.filter keep).flatMap f = l.flatMap f := by
  induction l with
  | nil => rfl
  | cons x rest ih =>
    have hrest := ih fun y hy => h y (List.mem_cons_of_mem x hy)
    cases hx : keep x with
    | true => rw [List.filter_cons_of_pos hx, List.flatMap_cons, List.flatMap_cons, hrest]
    | false =>
      rw [List.filter_cons_of_neg (by simp [hx]), List.flatMap_cons, h x List.mem_cons_self hx,
        hrest, List.nil_append]

namespace Node

variable (types : List String) (cascade : Bool)

/-- From the node on, a node without children can be reached that is of no listed type, and neither
is any on the way. -/
def Grounded (n : Node) : Prop :=
  ∃ path ∈ n.paths, (∀ m ∈ n :: n.along path, m.type ∉ types) ∧ ∃ m ∈ n.at? path, m.children = []

/-- The node at a path is the top node, or no node on the way down to it is of a listed type and,
with `cascade`, it is grounded. -/
def Survives (n : Node) (path : List Nat) : Prop :=
  path = [] ∨ (∀ m ∈ n.along path, m.type ∉ types) ∧
    (cascade = true → ∃ m ∈ n.at? path, m.Grounded types)

/-- The node at a path is below the top and of a listed type, and none above it below the top is. -/
def Topmost (n : Node) (path : List Nat) : Prop :=
  (∃ m ∈ (n.along path).getLast?, m.type ∈ types) ∧ ∀ m ∈ (n.along path).dropLast, m.type ∉ types

instance (n : Node) : Decidable (n.Grounded types) :=
  inferInstanceAs (Decidable (∃ path ∈ n.paths, _ ∧ _))

instance (n : Node) (path : List Nat) : Decidable (n.Survives types cascade path) :=
  inferInstanceAs (Decidable (_ ∨ _))

instance (n : Node) (path : List Nat) : Decidable (n.Topmost types path) :=
  inferInstanceAs (Decidable (_ ∧ _))

variable {types cascade}

theorem grounded_iff (n : Node) : n.Grounded types ↔
    n.type ∉ types ∧ (n.children = [] ∨ ∃ c ∈ n.children, (content c).Grounded types) := by
  constructor
  · rintro ⟨path, hpath, hclean, m, hm, hleaf⟩
    refine ⟨hclean n List.mem_cons_self, ?_⟩
    cases path with
    | nil =>
      cases hm
      exact .inl hleaf
    | cons place path =>
      obtain ⟨c, hc, hpath⟩ := cons_mem_paths_iff.mp hpath
      rw [along_cons hc] at hclean
      rw [at?_cons hc] at hm
      refine .inr ⟨c, List.mem_of_getElem? hc, path, hpath, ?_, m, hm, hleaf⟩
      exact fun k hk => hclean k (List.mem_cons_of_mem n hk)
  · rintro ⟨htype, hleaf | ⟨c, hc, path, hpath, hclean, m, hm, hleaf⟩⟩
    · exact ⟨[], n.nil_mem_paths, by simpa [along] using htype, n, rfl, hleaf⟩
    · obtain ⟨place, hplace⟩ := List.mem_iff_getElem?.mp hc
      refine ⟨place :: path, cons_mem_paths_iff.mpr ⟨c, hplace, hpath⟩, ?_, m, ?_, hleaf⟩
      · rw [along_cons hplace]
        exact List.forall_mem_cons.mpr ⟨htype, hclean⟩
      · rw [at?_cons hplace]
        exact hm

theorem Grounded.above {n m : Node} {path : List Nat} (hm : n.at? path = some m)
    (h : m.Grounded types) (hclean : ∀ k ∈ n :: n.along path, k.type ∉ types) :
    n.Grounded types := by
  induction path generalizing n with
  | nil =>
    cases hm
    exact h
  | cons place path ih =>
    obtain ⟨c, hc, hbelow⟩ := Option.bind_eq_some_iff.mp hm
    rw [along_cons hc] at hclean
    obtain ⟨htype, hclean⟩ := List.forall_mem_cons.mp hclean
    exact (grounded_iff n).mpr ⟨htype, .inr ⟨c, List.mem_of_getElem? hc, ih hbelow hclean⟩⟩

end Node

namespace Content

variable {types : List String} {cascade : Bool}

theorem emptied_eq_false_iff (cs : List Content) : emptied types cs cascade = false ↔
    cs = [] ∨ ∃ c ∈ cs, (c.kept types cascade).isSome := by
  rw [emptied, Bool.and_eq_false_iff, Bool.not_eq_false', List.isEmpty_iff,
    List.isEmpty_eq_false_iff_exists_mem]
  apply or_congr_right
  simp only [List.mem_filterMap, Option.isSome_iff_exists]
  constructor
  · rintro ⟨d, c, hc, hd⟩
    exact ⟨c, hc, d, hd⟩
  · rintro ⟨c, hc, d, hd⟩
    exact ⟨d, c, hc, hd⟩

theorem isSome_kept_iff (c : Content) : (c.kept types cascade).isSome ↔
    c.type ∉ types ∧ (cascade = true → (Node.content c).Grounded types) := by
  induction c with
  | leaf l =>
    rw [kept_leaf, Node.grounded_iff]
    simp only [List.contains_iff_mem, Node.type, Node.children, children, type, true_or, and_true]
    split <;> simp_all
  | parent p cs ih =>
    rw [kept_parent, Node.grounded_iff]
    simp only [Node.type, Node.children, children, type]
    cases cascade with
    | false => simp
    | true =>
      have hbelow : ∀ c ∈ cs, (c.kept types true).isSome ↔ (Node.content c).Grounded types := by
        intro c hc
        rw [ih c hc]
        constructor
        · exact fun h => h.2 rfl
        · exact fun h => ⟨((Node.grounded_iff (.content c)).mp h).1, fun _ => h⟩
      have hstays : emptied types cs true = false ↔
          cs = [] ∨ ∃ c ∈ cs, (Node.content c).Grounded types := by
        rw [emptied_eq_false_iff]
        exact or_congr_right (exists_congr fun c => and_congr_right (hbelow c))
      rw [← hstays]
      by_cases hlisted : p.type ∈ types
      · simp [hlisted]
      · cases emptied types cs true <;> simp [hlisted]

end Content

namespace Node

variable {types : List String} {cascade : Bool}

theorem remove_of_kept {c d : Content} (h : c.kept types cascade = some d) :
    ((content c).remove types cascade).1 = content d := by
  cases c with
  | leaf l =>
    rw [Content.kept_leaf] at h
    split at h
    · cases h
    · cases h
      rfl
  | parent p cs =>
    rw [Content.kept_parent] at h
    split at h
    · cases h
    · cases h
      exact congrArg (fun ds => content (.parent p ds)) (pruneAll_eq_filterMap cs)

theorem bare_remove (n : Node) : (n.remove types cascade).1.bare = n.bare := by
  cases n with
  | root cs => rfl
  | content c => cases c <;> rfl

theorem survives_cons_iff {n : Node} {c : Content} {place : Nat} {path : List Nat}
    (hc : n.children[place]? = some c) : n.Survives types cascade (place :: path) ↔
      (c.kept types cascade).isSome ∧ (content c).Survives types cascade path := by
  rw [Content.isSome_kept_iff, Survives, Survives, along_cons hc, at?_cons hc,
    List.forall_mem_cons]
  simp only [reduceCtorEq, false_or]
  constructor
  · rintro ⟨⟨htype, hclean⟩, hgrounded⟩
    refine ⟨⟨htype, fun hcascade => ?_⟩, .inr ⟨hclean, hgrounded⟩⟩
    obtain ⟨m, hm, hbelow⟩ := hgrounded hcascade
    exact hbelow.above hm (List.forall_mem_cons.mpr ⟨htype, hclean⟩)
  · rintro ⟨⟨htype, hstays⟩, rfl | ⟨hclean, hgrounded⟩⟩
    · exact ⟨⟨htype, by simp [along]⟩, fun hcascade => ⟨content c, rfl, hstays hcascade⟩⟩
    · exact ⟨⟨htype, hclean⟩, hgrounded⟩

variable (types cascade)

def stays (n : Node) : List (Content × Nat) :=
  n.children.zipIdx.filter fun x => (x.1.kept types cascade).isSome

def origin : (path : List Nat) → (n : Node) → List Nat
  | [], _ => []
  | place :: path, n => match (n.stays types cascade)[place]? with
    | some (c, before) => before :: origin path (.content c)
    | none => []

variable {types cascade}

theorem children_remove_eq_map (n : Node) : (n.remove types cascade).1.children =
    (n.stays types cascade).map fun x => (x.1.kept types cascade).getD x.1 := by
  have hzip : n.children.filterMap (Content.kept types cascade) =
      n.children.zipIdx.filterMap fun x => x.1.kept types cascade := by
    rw [← List.zipIdx_map_fst 0 n.children, List.filterMap_map, List.zipIdx_map_fst]
    rfl
  rw [children_remove, hzip, stays, ← List.filterMap_eq_map, List.filterMap_filter]
  apply List.filterMap_congr
  intro x _
  cases hkept : x.1.kept types cascade <;> simp [hkept]

theorem origin_cons {n : Node} {c : Content} {place before : Nat}
    (h : (n.stays types cascade)[place]? = some (c, before)) (path : List Nat) :
    n.origin types cascade (place :: path) = before :: (content c).origin types cascade path := by
  rw [origin, h]

theorem mem_stays_iff {n : Node} {c : Content} {before : Nat} :
    (c, before) ∈ n.stays types cascade ↔
      n.children[before]? = some c ∧ (c.kept types cascade).isSome := by
  rw [stays, List.mem_filter, List.mem_zipIdx_iff_getElem?]

theorem filter_survives_paths (n : Node) :
    (n.paths.filter fun path => n.Survives types cascade path) =
      [] :: (n.stays types cascade).flatMap fun x =>
        ((content x.1).paths.filter fun path =>
          (content x.1).Survives types cascade path).map (x.2 :: ·) := by
  have hgone : ∀ x ∈ n.children.zipIdx, (x.1.kept types cascade).isSome = false →
      ((content x.1).paths.map (x.2 :: ·)).filter
        (fun path => n.Survives types cascade path) = [] := by
    rintro ⟨c, before⟩ hmem hnone
    have hc : n.children[before]? = some c := List.mem_zipIdx_iff_getElem?.mp hmem
    simp [List.filter_map, survives_cons_iff hc, hnone]
  rw [paths_eq, List.filter_cons_of_pos (by simp [Survives]), List.filter_flatMap,
    ← flatMap_filter_of_nil hgone]
  apply congrArg ([] :: ·)
  apply List.flatMap_congr
  rintro ⟨c, before⟩ hmem
  obtain ⟨hc, hkept⟩ := mem_stays_iff.mp hmem
  simp [List.filter_map, Function.comp_def, survives_cons_iff hc, hkept]

theorem map_origin_paths_eq (n : Node) :
    ((n.remove types cascade).1.paths.map fun path => n.origin types cascade path) =
      [] :: (n.stays types cascade).flatMap fun x =>
        (((content x.1).remove types cascade).1.paths.map fun path =>
          (content x.1).origin types cascade path).map (x.2 :: ·) := by
  rw [paths_eq, children_remove_eq_map, List.zipIdx_map, List.map_cons, List.map_flatMap,
    List.flatMap_map, ← List.zipIdx_map_fst 0 (n.stays types cascade), List.flatMap_map,
    List.zipIdx_map_fst]
  apply congrArg ([] :: ·)
  apply List.flatMap_congr
  rintro ⟨⟨c, before⟩, place⟩ hmem
  have hplace : (n.stays types cascade)[place]? = some (c, before) :=
    List.mem_zipIdx_iff_getElem?.mp hmem
  obtain ⟨-, hkept⟩ := mem_stays_iff.mp (List.mem_of_getElem? hplace)
  obtain ⟨d, hd⟩ := Option.isSome_iff_exists.mp hkept
  simp [remove_of_kept hd, hd, origin_cons hplace]

theorem map_origin_paths (n : Node) :
    ((n.remove types cascade).1.paths.map fun path => n.origin types cascade path) =
      n.paths.filter fun path => n.Survives types cascade path := by
  induction n using Node.induction with
  | step n ih =>
    rw [map_origin_paths_eq, filter_survives_paths]
    apply congrArg ([] :: ·)
    apply List.flatMap_congr
    rintro ⟨c, before⟩ hmem
    obtain ⟨hc, -⟩ := mem_stays_iff.mp hmem
    rw [ih c (List.mem_of_getElem? hc)]

theorem getElem?_children_remove {n : Node} {d : Content} {place : Nat}
    (h : (n.remove types cascade).1.children[place]? = some d) :
    ∃ c before, (n.stays types cascade)[place]? = some (c, before) ∧
      n.children[before]? = some c ∧ c.kept types cascade = some d := by
  rw [children_remove_eq_map, List.getElem?_map, Option.map_eq_some_iff] at h
  obtain ⟨⟨c, before⟩, hplace, hd⟩ := h
  obtain ⟨hc, hkept⟩ := mem_stays_iff.mp (List.mem_of_getElem? hplace)
  obtain ⟨e, he⟩ := Option.isSome_iff_exists.mp hkept
  rw [he, Option.getD_some] at hd
  exact ⟨c, before, hplace, hc, by rw [he, hd]⟩

theorem origin_append {n : Node} {path : List Nat} {place : Nat}
    (h : path ++ [place] ∈ (n.remove types cascade).1.paths) :
    ∃ before, n.origin types cascade (path ++ [place]) =
      n.origin types cascade path ++ [before] := by
  induction path generalizing n with
  | nil =>
    obtain ⟨d, hd, -⟩ := cons_mem_paths_iff.mp h
    obtain ⟨c, before, hplace, -⟩ := getElem?_children_remove hd
    exact ⟨before, origin_cons hplace []⟩
  | cons first path ih =>
    obtain ⟨d, hd, hpath⟩ := cons_mem_paths_iff.mp h
    obtain ⟨c, before, hplace, -, hkept⟩ := getElem?_children_remove hd
    rw [← remove_of_kept hkept] at hpath
    obtain ⟨last, hlast⟩ := ih hpath
    refine ⟨last, ?_⟩
    rw [List.cons_append, origin_cons hplace, origin_cons hplace, hlast, List.cons_append]

theorem bare_at?_remove {n m : Node} {path : List Nat}
    (h : (n.remove types cascade).1.at? path = some m) :
    ∃ before, n.at? (n.origin types cascade path) = some before ∧ m.bare = before.bare := by
  induction path generalizing n with
  | nil =>
    cases h
    exact ⟨n, rfl, n.bare_remove⟩
  | cons place path ih =>
    obtain ⟨d, hd, hm⟩ := Option.bind_eq_some_iff.mp h
    obtain ⟨c, before, hplace, hc, hkept⟩ := getElem?_children_remove hd
    rw [origin_cons hplace, at?_cons hc]
    rw [← remove_of_kept hkept] at hm
    exact ih hm

theorem along_ne_nil {n : Node} {path : List Nat} (hpath : path ∈ n.paths) (hne : path ≠ []) :
    n.along path ≠ [] := by
  cases path with
  | nil => exact absurd rfl hne
  | cons place path =>
    obtain ⟨c, hc, -⟩ := cons_mem_paths_iff.mp hpath
    rw [along_cons hc]
    exact List.cons_ne_nil _ _

/-- Below a child of a listed type nothing is topmost but the child; below any other child, what is
topmost from it on. -/
theorem topmost_cons_iff {n : Node} {c : Content} {place : Nat} {path : List Nat}
    (hc : n.children[place]? = some c) (hpath : path ∈ (content c).paths) :
    n.Topmost types (place :: path) ↔
      if c.type ∈ types then path = [] else (content c).Topmost types path := by
  rw [Topmost, along_cons hc, Topmost]
  by_cases hnil : path = []
  · rw [hnil]
    simp [along, type]
  · -- The child then stands above the node that the path leads to.
    have hbelow := along_ne_nil hpath hnil
    rw [List.getLast?_cons_of_ne_nil hbelow, List.dropLast_cons_of_ne_nil hbelow,
      List.forall_mem_cons]
    by_cases hlisted : c.type ∈ types <;> simp [hlisted, hnil, type]

theorem snd_prune (c : Content) :
    (prune types cascade c).2 = ((content c).remove types cascade).2 := by
  cases c with
  | leaf l => rfl
  | parent p cs => cases cs <;> rfl

theorem snd_pruneAll (cs : List Content) : (pruneAll types cascade cs).2 =
    (cs.map fun c => if c.type ∈ types then 1 else ((content c).remove types cascade).2).sum := by
  induction cs with
  | nil => rfl
  | cons c rest ih =>
    rw [pruneAll, List.map_cons, List.sum_cons, ← ih, ← snd_prune]
    by_cases hlisted : c.type ∈ types
    · simp [hlisted, Nat.add_comm]
    · simp [hlisted]

theorem snd_remove (n : Node) : (n.remove types cascade).2 = (n.children.map fun c =>
    if c.type ∈ types then 1 else ((content c).remove types cascade).2).sum := by
  cases n with
  | root cs => exact snd_pruneAll cs
  | content c =>
    cases c with
    | leaf l => rfl
    | parent p cs => exact snd_pruneAll cs

theorem countP_paths_eq_nil (n : Node) : n.paths.countP (fun path => path = []) = 1 := by
  rw [paths_eq, List.countP_cons_of_pos rfl, List.countP_eq_zero.mpr]
  intro path hpath
  obtain ⟨x, -, hpath⟩ := List.mem_flatMap.mp hpath
  obtain ⟨rest, -, rfl⟩ := List.mem_map.mp hpath
  simp

theorem snd_remove_eq_countP (n : Node) :
    (n.remove types cascade).2 = n.paths.countP fun path => n.Topmost types path := by
  induction n using Node.induction with
  | step n ih =>
    have hchild : ∀ x ∈ n.children.zipIdx,
        ((content x.1).paths.map (x.2 :: ·)).countP (fun path => n.Topmost types path) =
          if x.1.type ∈ types then 1 else ((content x.1).remove types cascade).2 := by
      rintro ⟨c, place⟩ hmem
      have hc : n.children[place]? = some c := List.mem_zipIdx_iff_getElem?.mp hmem
      rw [List.countP_map]
      split
      · next hlisted =>
        rw [← countP_paths_eq_nil (content c)]
        apply List.countP_congr
        intro path hpath
        simp [topmost_cons_iff hc hpath, hlisted]
      · next hlisted =>
        rw [ih c (List.mem_of_getElem? hc)]
        apply List.countP_congr
        intro path hpath
        simp [topmost_cons_iff hc hpath, hlisted]
    rw [snd_remove, paths_eq, List.countP_cons_of_neg (by simp [Topmost, along]),
      List.countP_flatMap, ← List.zipIdx_map_fst 0 n.children, List.map_map, List.zipIdx_map_fst]
    exact congrArg List.sum (List.map_congr_left fun x hx => (hchild x hx).symm)

/-- A tree holds the chosen nodes of another one and no others: in the same order, each below the
same node as there, and with the same fields but the children. -/
structure Thinned (n : Node) (chosen : List Nat → Prop) [DecidablePred chosen] (left : Node)
    (origin : List Nat → List Nat) : Prop where
  paths : left.paths.map origin = n.paths.filter chosen
  parent : ∀ path place, path ++ [place] ∈ left.paths →
    ∃ before, origin (path ++ [place]) = origin path ++ [before]
  fields : ∀ path ∈ left.paths, ∃ m before,
    left.at? path = some m ∧ n.at? (origin path) = some before ∧ m.bare = before.bare

/-- Dropping types of nodes leaves the survivors, and the number that it returns is that of the
topmost nodes of these types, with `cascade` or without. -/
theorem remove_survivors (types : List String) (cascade : Bool) (n : Node) :
    (∃ origin, n.Thinned (n.Survives types cascade) (n.remove types cascade).1 origin) ∧
      (n.remove types cascade).2 = n.paths.countP (n.Topmost types ·) ∧
      (n.remove types true).2 = (n.remove types false).2 := by
  refine ⟨⟨fun path => n.origin types cascade path, ?_⟩, snd_remove_eq_countP n, ?_⟩
  · exact {
      paths := map_origin_paths n
      parent := fun _ _ => origin_append
      fields := by
        intro path hpath
        obtain ⟨m, hm⟩ := Option.isSome_iff_exists.mp (mem_paths_iff.mp hpath)
        obtain ⟨before, hbefore, hbare⟩ := bare_at?_remove hm
        exact ⟨m, before, hm, hbefore, hbare⟩ }
  · rw [snd_remove_eq_countP, snd_remove_eq_countP]

example :
    let n := root [.parent .paragraph [.parent .emphasis [.text "a"]], .parent .listItem []]
    n.paths.filter (n.Survives ["text"] true) = [[], [1]] ∧
      n.paths.filter (n.Survives ["text"] false) = [[], [0], [0, 0], [1]] := by
  decide

end Node

end RichMarkdown.Source
