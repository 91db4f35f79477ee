import Mathlib.Data.List.Flatten
import RichMarkdown.Proofs.Rule.Standard

/-! Which nodes of a tree a conversion comes to, and at which level. It ends with an error if one of
them has no rule or lies too deep, and the error is that of the first such node. -/
namespace RichMarkdown

open Source (Content Parent)

/-- A node that a conversion comes to. The top node is at level 1. -/
structure Visit where
  level : Int
  node : Source.Node

namespace Registry

def goesOn {α : Type} (rules : List (String × Rule)) (type : String) (children : List α) : List α :=
  match firstClaim type rules with
  | none => []
  | some (_, rule) => if rule.kind = .mark then children.take 1 else children

theorem map_goesOn {α β : Type} (rules : List (String × Rule)) (type : String) (f : α → β)
    (children : List α) :
    (goesOn rules type children).map f = goesOn rules type (children.map f) := by
  unfold goesOn
  split
  · rfl
  · split
    · exact List.map_take
    · rfl

theorem goesOn_sublist {α : Type} (rules : List (String × Rule)) (type : String)
    (children : List α) : (goesOn rules type children).Sublist children := by
  unfold goesOn
  split
  · exact List.nil_sublist _
  · split
    · exact List.take_sublist 1 _
    · exact List.Sublist.refl _

end Registry

open Registry (firstClaim goesOn)

mutual

def Source.Content.visits (rules : List (String × Rule)) (level : Int) : Content → List Visit
  | .leaf l => [⟨level, .content (.leaf l)⟩]
  | .parent p cs => ⟨level, .content (.parent p cs)⟩ ::
    (goesOn rules p.type (Source.Content.visitsOf rules (level + 1) cs)).flatten

def Source.Content.visitsOf (rules : List (String × Rule)) (level : Int) :
    List Content → List (List Visit)
  | [] => []
  | c :: rest => c.visits rules level :: Source.Content.visitsOf rules level rest

end

namespace Source.Node

def visits (rules : List (String × Rule)) (level : Int) : Source.Node → List Visit
  | .root cs => ⟨level, .root cs⟩ ::
    (goesOn rules "root" (Content.visitsOf rules (level + 1) cs)).flatten
  | .content c => c.visits rules level

variable {rules : List (String × Rule)}

theorem visits_eq (level : Int) (n : Source.Node) :
    n.visits rules level = ⟨level, n⟩ ::
      (goesOn rules n.type n.children).flatMap fun c => (content c).visits rules (level + 1) := by
  have hall : ∀ cs : List Content, Content.visitsOf rules (level + 1) cs =
      cs.map fun c => (content c).visits rules (level + 1) := by
    intro cs
    induction cs with
    | nil => rfl
    | cons c rest ih => rw [Content.visitsOf, ih, List.map_cons, visits]
  have hbelow : ∀ cs : List Content,
      (goesOn rules n.type (Content.visitsOf rules (level + 1) cs)).flatten =
        (goesOn rules n.type cs).flatMap fun c => (content c).visits rules (level + 1) := by
    intro cs
    rw [hall, ← Registry.map_goesOn, List.flatMap_def]
  cases n with
  | root cs => exact congrArg _ (hbelow cs)
  | content c =>
    cases c with
    | parent p cs => exact congrArg _ (hbelow cs)
    | leaf l =>
      have hnil : goesOn rules l.type ([] : List Content) = [] :=
        List.sublist_nil.mp (Registry.goesOn_sublist rules l.type [])
      rw [children, Content.children, type, Content.type, hnil]
      rfl

theorem visits_root (cs : List Content) (level : Int) :
    (root cs).visits Registry.defaultRules level = ⟨level, root cs⟩ ::
      cs.flatMap fun c => (content c).visits Registry.defaultRules (level + 1) :=
  visits_eq level (root cs)

theorem visits_parent {p : Parent} {form : Form} (hform : p.form? = some form) (cs : List Content)
    (level : Int) : (content (.parent p cs)).visits Registry.defaultRules level =
      ⟨level, content (.parent p cs)⟩ :: (form.reached cs).flatMap
        fun c => (content c).visits Registry.defaultRules (level + 1) := by
  have hreached : goesOn Registry.defaultRules p.type cs = form.reached cs := by
    cases p <;> cases hform <;> rfl
  rw [visits_eq, ← hreached]
  rfl

theorem visits_sublist_nodes (level : Int) (n : Source.Node) :
    ((n.visits rules level).map Visit.node).Sublist n.nodes := by
  induction n using Source.Node.induction generalizing level with
  | step n ih =>
    rw [visits_eq, nodes_eq, List.map_cons, List.map_flatMap]
    refine List.Sublist.cons_cons n ?_
    have hgone := (Registry.goesOn_sublist rules n.type n.children).flatMap
      fun c => (content c).nodes
    refine List.Sublist.trans (List.Sublist.flatMap_right _ fun c hc => ?_) hgone
    exact ih c ((Registry.goesOn_sublist rules n.type n.children).subset hc) (level + 1)

end Source.Node

/-- What is visited of a tree: the top node, the children of a node under a node rule, and the first
child of a node under a mark rule. -/
inductive Visited (rules : List (String × Rule)) (tree : Source.Node) : Visit → Prop
  | top : Visited rules tree ⟨1, tree⟩
  | child {v : Visit} {name : String} {rule : Rule} {c : Content} (before : Visited rules tree v)
      (claimed : firstClaim v.node.type rules = some (name, rule)) (kind : rule.kind ≠ .mark)
      (mem : c ∈ v.node.children) : Visited rules tree ⟨v.level + 1, .content c⟩
  | firstChild {v : Visit} {name : String} {rule : Rule} {c : Content}
      (before : Visited rules tree v)
      (claimed : firstClaim v.node.type rules = some (name, rule)) (kind : rule.kind = .mark)
      (head : v.node.children.head? = some c) : Visited rules tree ⟨v.level + 1, .content c⟩

section

variable {rules : List (String × Rule)} {tree : Source.Node}

theorem Visited.step {v : Visit} (h : Visited rules tree v) {c : Content}
    (hc : c ∈ goesOn rules v.node.type v.node.children) :
    Visited rules tree ⟨v.level + 1, .content c⟩ := by
  unfold goesOn at hc
  split at hc
  · cases hc
  · next name rule hclaimed =>
    split at hc
    · next hkind =>
      refine h.firstChild hclaimed hkind ?_
      cases hcs : v.node.children with
      | nil => rw [hcs] at hc; cases hc
      | cons first rest =>
        rw [hcs] at hc
        rw [List.mem_singleton.mp hc, List.head?_cons]
    · next hkind => exact h.child hclaimed hkind hc

theorem Visited.all {level : Int} {n : Source.Node} (h : Visited rules tree ⟨level, n⟩) :
    ∀ v ∈ n.visits rules level, Visited rules tree v := by
  induction n using Source.Node.induction generalizing level with
  | step n ih =>
    rw [Source.Node.visits_eq, List.forall_mem_cons]
    refine ⟨h, fun v hv => ?_⟩
    obtain ⟨c, hc, hv⟩ := List.mem_flatMap.mp hv
    have hmem := (Registry.goesOn_sublist rules n.type n.children).subset hc
    exact ih c hmem (h.step hc) v hv

theorem mem_visits_below {level : Int} {v : Visit} (hv : v ∈ tree.visits rules level) {c : Content}
    (hc : c ∈ goesOn rules v.node.type v.node.children) :
    ⟨v.level + 1, .content c⟩ ∈ tree.visits rules level := by
  induction tree using Source.Node.induction generalizing level with
  | step n ih =>
    rw [Source.Node.visits_eq] at hv ⊢
    refine List.mem_cons_of_mem _ ?_
    rcases List.mem_cons.mp hv with rfl | hv
    · refine List.mem_flatMap.mpr ⟨c, hc, ?_⟩
      rw [Source.Node.visits_eq]
      exact List.mem_cons_self
    · obtain ⟨d, hd, hv⟩ := List.mem_flatMap.mp hv
      have hmem := (Registry.goesOn_sublist rules n.type n.children).subset hd
      exact List.mem_flatMap.mpr ⟨d, hd, ih d hmem hv⟩

theorem mem_visits_iff {v : Visit} : v ∈ tree.visits rules 1 ↔ Visited rules tree v := by
  refine ⟨fun hv => Visited.top.all v hv, fun h => ?_⟩
  induction h with
  | top =>
    rw [Source.Node.visits_eq]
    exact List.mem_cons_self
  | child before claimed kind mem ih =>
    refine mem_visits_below ih ?_
    unfold goesOn
    rw [claimed]
    simpa only [if_neg kind] using mem
  | firstChild before claimed kind head ih =>
    refine mem_visits_below ih ?_
    unfold goesOn
    rw [claimed]
    simp only [if_pos kind]
    obtain ⟨rest, hcs⟩ := List.head?_eq_some_iff.mp head
    rw [hcs]
    exact List.mem_singleton_self _

end

end RichMarkdown
