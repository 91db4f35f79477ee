import RichMarkdown.Proofs.Process.Reentry

/-! The moments of a conversion: what is left of the script at work, the process at that moment, and
how many conversions of nodes lie around it. -/
namespace RichMarkdown

variable {room : Nat} {node : Source.Node} {p q : Process} {script : Script}

/-- The moments of the script of a node, on whose conversion `p` has come. Conversions that the
script starts are one step. -/
inductive Underway (room : Nat) (node : Source.Node) (p : Process) : Script → Process → Prop
  | entered {name : String} {rule : Rule}
      (hfound : (p.registry.find node.type).1 = .ok (some (name, rule))) :
      Underway room node p ((p.entered node.type).scriptFor name rule node) (p.entered node.type)
  | step {script rest : Script} {q r : Process} (before : Underway room node p script q)
      (h : script.step (.within room) (resolveAll (.within room) node.children) q =
        some (rest, r)) : Underway room node p rest r

/-- The moments of the conversion of a node and of the nodes converted below it, with the number of
levels that the script at work is below that of the node. Whole conversions that scripts start on
the process are not looked into. -/
inductive Converting :
    (room : Nat) → Source.Node → Process → (level : Nat) → Script → Process → Prop
  | here {room : Nat} {node : Source.Node} {p q : Process} {script : Script}
      (h : Underway room node p script q) : Converting (room + 1) node p 0 script q
  | child {room n level : Nat} {node : Source.Node} {c : Source.Content} {p q r : Process}
      {next : Except ConvertError DocNode → Script} {script : Script}
      (before : Underway room node p (.child n next) q) (hc : node.children[n]? = some c)
      (below : Converting (room + 1) (.content c) q level script r) :
      Converting (room + 1) node p (level + 1) script r
  | convert {room level : Nat} {node other : Source.Node} {p q r : Process}
      {next : Except ConvertError DocNode → Script} {script : Script}
      (before : Underway room node p (.convert other next) q)
      (below : Converting room other q level script r) :
      Converting (room + 1) node p (level + 1) script r

theorem length_resolveAll {further : Further} (cs : List Source.Content) :
    (resolveAll further cs).length = cs.length := by
  rw [resolveAll_eq_map, List.length_map]

variable {whole part : Process → List Reentry → Process → Prop}

/-- The re-entries below a node are those up to a moment of its script and those after it, and up
to the moment the law holds. -/
theorem Underway.obeys (law : Trail.Law whole part)
    (hfurther : (Further.within room).Obeys (trailWithin room) whole part)
    (h : Underway room node p script q) :
    ∃ before, part (p.entered node.type) before q ∧
      trailWithin (room + 1) node p =
        before ++ script.trail (.within room) (trailWithin room)
          (childTrails (.within room) (trailWithin room) node.children) q := by
  induction h with
  | entered hfound =>
    refine ⟨[], law.start _, ?_⟩
    rw [trailWithin, resolveTrail_eq]
    exact nodeTrail_of_found (length_childTrails _) hfound
  | step before h ih =>
    obtain ⟨earlier, hearlier, htrail⟩ := ih
    rw [← map_childTrails] at h
    obtain ⟨middle, hmiddle, hrest⟩ := Script.step_obeys law hfurther
      (childTrails_obeys fun c _ => resolveTrail_obeys law hfurther (.content c)) h
    exact ⟨earlier ++ middle, law.append hearlier hmiddle, by
      rw [htrail, hrest, List.append_assoc]⟩

end RichMarkdown
