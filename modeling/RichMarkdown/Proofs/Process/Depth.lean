import RichMarkdown.Proofs.Process.Moment

/-! The depth of a process. The conversion of a node leaves it as it was, and `k` levels below the
node it is `k` higher than at the node. Where conversions start whole conversions on their own
process, the last of these decides the depth that is left. -/
namespace RichMarkdown

/-- The depth after a step is the one before it. After re-entries it is the one that the last of
them left, less the levels that have been left since, of which `outer` are still to be left. -/
def Process.Settled (outer : Int) (p : Process) (trail : List Reentry) (q : Process) : Prop :=
  q.depth = match trail.getLast? with
    | none => p.depth
    | some last => last.depth - last.level + outer

theorem Process.settled_law : Trail.Law (Process.Settled 0) (Process.Settled 1) where
  none _ := rfl
  logged _ _ := rfl
  dropped _ _ := rfl
  append {p q r before after} hp hq := by
    unfold Settled at *
    rw [List.getLast?_append, hq]
    cases after.getLast? with
    | none => exact hp
    | some last => rfl
  below {p q trail} h := by
    unfold Settled at *
    rw [List.getLast?_map, h]
    cases trail.getLast? with
    | none => rfl
    | some last =>
      simp only [Option.map_some]
      omega
  left {p q type trail} h := by
    unfold Settled at *
    rw [left, h]
    cases trail.getLast? with
    | none => exact Int.add_sub_cancel p.depth 1
    | some last =>
      dsimp only
      omega

theorem Further.within_settled (room : Nat) :
    (Further.within room).Obeys (trailWithin room) (Process.Settled 0) (Process.Settled 1) :=
  within_obeys Process.settled_law (fun _ _ _ _ => (Int.sub_add_cancel _ 1).symm) room

theorem transformWithin_depth (room : Nat) (tree : Source.Node) (p : Process) :
    (transformWithin room tree p).2.depth = match (reentries room tree p).getLast? with
      | none => 0
      | some last => last.depth - last.level := by
  have hsettled : (transformWithin room tree p).2.depth = _ :=
    (Further.within_settled room).convert (p.filtered tree) (p.prepared tree)
  rw [hsettled, reentries]
  cases (trailWithin room (p.filtered tree) (p.prepared tree)).getLast? with
  | none => rfl
  | some last => exact Int.add_zero _

structure Reentry.Sound (r : Reentry) : Prop where
  one_le_level : 1 ≤ r.level
  depth_nonpos : r.depth ≤ 0

theorem Reentry.sound_law : Trail.Law (fun _ trail _ => ∀ r ∈ trail, r.Sound)
    (fun _ trail _ => ∀ r ∈ trail, r.Sound) where
  none _ := by simp
  logged _ _ := by simp
  dropped _ _ := by simp
  append hp hq r hr := (List.mem_append.mp hr).elim (hp r) (hq r)
  below h r hr := by
    obtain ⟨inner, hinner, rfl⟩ := List.mem_map.mp hr
    exact ⟨Nat.le_add_left 1 _, (h inner hinner).depth_nonpos⟩
  left h := h

theorem transformWithin_depth_nonpos {room : Nat} {tree : Source.Node} {p : Process}
    (h : ∀ r ∈ reentries room tree p, r.Sound) : (transformWithin room tree p).2.depth ≤ 0 := by
  rw [transformWithin_depth]
  cases hlast : (reentries room tree p).getLast? with
  | none => exact Int.le_refl 0
  | some last =>
    obtain ⟨hlevel, hdepth⟩ := h last (List.mem_of_getLast? hlast)
    have hleft : last.depth - last.level ≤ 0 := by omega
    exact hleft

theorem Further.within_sound (room : Nat) : (Further.within room).Obeys (trailWithin room)
    (fun _ trail _ => ∀ r ∈ trail, r.Sound) (fun _ trail _ => ∀ r ∈ trail, r.Sound) :=
  within_obeys Reentry.sound_law (fun _ ih _ _ r hr => by
    rw [List.mem_singleton] at hr
    subst hr
    exact ⟨Nat.le_refl 1, transformWithin_depth_nonpos (ih _ _)⟩) room

variable {room level : Nat} {node : Source.Node} {p q : Process} {script : Script}

theorem Underway.quiet (h : Underway room node p script q)
    (hquiet : trailWithin (room + 1) node p = []) :
    (p.entered node.type).Steady q ∧ script.trail (.within room) (trailWithin room)
      (childTrails (.within room) (trailWithin room) node.children) q = [] := by
  obtain ⟨before, hbefore, htrail⟩ := h.obeys Process.faithful_law (Further.within_faithful room)
  rw [hquiet] at htrail
  obtain ⟨hnone, hrest⟩ := List.append_eq_nil_iff.mp htrail.symm
  exact ⟨hbefore hnone, hrest⟩

theorem Converting.depth_eq (h : Converting room node p level script q)
    (hquiet : trailWithin room node p = []) : q.depth = p.depth + level + 1 := by
  have hdeeper : ∀ {entry inner : Int} {k : Nat}, inner = entry + 1 + k + 1 →
      inner = entry + (k + 1 : Nat) + 1 := by omega
  induction h with
  | here h => simpa [Process.entered] using (h.quiet hquiet).1.depth
  | @child room n level node c p q r next script before hc below ih =>
    obtain ⟨hsteady, htrail⟩ := before.quiet hquiet
    have hplace : (childTrails (.within room) (trailWithin room) node.children)[n]? =
        some (resolve (.within room) c, contentTrail (.within room) (trailWithin room) c) := by
      rw [childTrails_eq_map, List.getElem?_map, hc, Option.map_some]
    rw [Script.trail, hplace] at htrail
    have hbelow := List.map_eq_nil_iff.mp (List.append_eq_nil_iff.mp htrail).1
    rw [ih hbelow, hsteady.depth]
    exact hdeeper rfl
  | @convert room level node other p q r next script before below ih =>
    obtain ⟨hsteady, htrail⟩ := before.quiet hquiet
    rw [Script.trail] at htrail
    have hbelow := List.map_eq_nil_iff.mp (List.append_eq_nil_iff.mp htrail).1
    rw [ih hbelow, hsteady.depth]
    exact hdeeper rfl

/-- The conversion of a node, however it ends, leaves the depth as it was unless a whole conversion
is started on the process, and each moment of it has the depth of its level. A whole conversion
leaves depth 0, or what the last re-entry left less the level of the node that it came from. -/
theorem depth_balanced (room : Nat) (p : Process) :
    (∀ node, trailWithin room node p = [] → (convertWithin room node p).2.depth = p.depth ∧
      ∀ level script q, Converting room node p level script q →
        q.depth = p.depth + level + 1) ∧
    ∀ tree, (transformWithin room tree p).2.depth ≤ 0 ∧
      (reentries room tree p = [] → (transformWithin room tree p).2.depth = 0) ∧
      ∀ last, (reentries room tree p).getLast? = some last → 1 ≤ last.level ∧
        (transformWithin room tree p).2.depth = last.depth - last.level := by
  refine ⟨fun node hquiet => ⟨?_, fun level script q h => h.depth_eq hquiet⟩, fun tree => ?_⟩
  · exact ((Further.within_faithful room).convert node p hquiet).depth
  · have hsound : ∀ r ∈ reentries room tree p, r.Sound :=
      (Further.within_sound room).convert (p.filtered tree) (p.prepared tree)
    refine ⟨transformWithin_depth_nonpos hsound, fun hquiet => ?_, fun last hlast => ?_⟩
    · rw [transformWithin_depth, hquiet]
      rfl
    · rw [transformWithin_depth, hlast]
      exact ⟨(hsound last (List.mem_of_getLast? hlast)).one_le_level, rfl⟩

def echoing : Process :=
  { options := .default
    registry := .ofPairs [("doc", Registry.nodeRule "root"),
      ("quote", Registry.nodeRule "blockquote"),
      ("echo", Registry.nodeRule "code"
        (some fun _ => .transform (.root [.parent .paragraph []]) .finish)),
      ("again", Registry.nodeRule "paragraph" (some fun _ => .transform (.root []) .finish))] }

def echoedQuote : Source.Node :=
  .root [.parent .blockquote [.leaf (.code none none "")]]

def emptyQuote : Source.Node :=
  .content (.parent .blockquote [])

def doubleQuote : Source.Node :=
  .content (.parent .blockquote [.parent .blockquote []])

/-- A block of code at level 3 leaves depth -2, so that the whole tree leaves -5. A quotation within
another one leaves the depth as it is, and is converted at depth 2. -/
theorem echoing_depth :
    reentries furtherLimit echoedQuote echoing = [⟨3, -2⟩] ∧
    (transform echoedQuote echoing).2.depth = -5 ∧
    trailWithin furtherLimit doubleQuote echoing = [] ∧ (convert doubleQuote echoing).2.depth = 0 ∧
    ∃ script q, Converting furtherLimit doubleQuote echoing 1 script q ∧ q.depth = 2 := by
  obtain ⟨hconvert, htransform⟩ := depth_balanced furtherLimit echoing
  have hechoes : reentries furtherLimit echoedQuote echoing = [⟨3, -2⟩] := by decide +kernel
  have hquiet : trailWithin furtherLimit doubleQuote echoing = [] := by decide +kernel
  obtain ⟨-, -, hlast⟩ := htransform echoedQuote
  obtain ⟨hdepth, hmoments⟩ := hconvert doubleQuote hquiet
  have hrule : (echoing.registry.find doubleQuote.type).1 =
    .ok (some ("quote", Registry.nodeRule "blockquote")) := rfl
  have hrule' : ((echoing.entered doubleQuote.type).registry.find emptyQuote.type).1 =
    .ok (some ("quote", Registry.nodeRule "blockquote")) := rfl
  have houter : Underway 199 doubleQuote echoing (.child 0 _) (echoing.entered doubleQuote.type) :=
    .entered hrule
  have hinner : Underway 199 emptyQuote (echoing.entered doubleQuote.type) _
      ((echoing.entered doubleQuote.type).entered emptyQuote.type) := .entered hrule'
  have hmoment := Converting.child houter rfl (.here hinner)
  rw [transform, convert]
  refine ⟨hechoes, ?_, hquiet, hdepth, _, _, hmoment, hmoments _ _ _ hmoment⟩
  exact (hlast ⟨3, -2⟩ (by rw [hechoes]; rfl)).2

end RichMarkdown
