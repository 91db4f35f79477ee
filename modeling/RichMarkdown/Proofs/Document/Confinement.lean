import Mathlib.Data.List.Forall2
import RichMarkdown.Proofs.Rule.Standard

/-! What is dropped does not show. Trees that differ in dropped subtrees only are converted alike by
the default rules, as long as they define the same addresses and titles. -/
namespace RichMarkdown

open Source (Content Leaf Parent Definition)

namespace Source

/-- Nodes below the top that differ in subtrees of listed types only. In place of such a subtree
there may be any other, its top node being of a listed type as well. -/
inductive Content.Varies (types : List String) : Content → Content → Prop
  | dropped {c d : Content} (hc : c.type ∈ types) (hd : d.type ∈ types) : Varies types c d
  | leaf (l : Leaf) : Varies types (.leaf l) (.leaf l)
  | parent (p : Parent) {cs ds : List Content} (below : List.Forall₂ (Varies types) cs ds) :
      Varies types (.parent p cs) (.parent p ds)

inductive Node.Varies (types : List String) : Node → Node → Prop
  | root {cs ds : List Content} (below : List.Forall₂ (Content.Varies types) cs ds) :
      Varies types (.root cs) (.root ds)
  | leaf (l : Leaf) : Varies types (.content (.leaf l)) (.content (.leaf l))
  | parent (p : Parent) {cs ds : List Content}
      (below : List.Forall₂ (Content.Varies types) cs ds) :
      Varies types (.content (.parent p cs)) (.content (.parent p ds))

variable {types : List String} {cascade : Bool}

theorem pruneAll_cons_of_mem {c : Content} (hc : c.type ∈ types) (rest : List Content) :
    pruneAll types cascade (c :: rest) =
      ((pruneAll types cascade rest).1, (pruneAll types cascade rest).2 + 1) := by
  have hlisted : types.contains c.type = true := List.contains_iff_mem.mpr hc
  simp only [pruneAll, hlisted, if_true]

theorem pruneAll_cons_parent (p : Parent) {cs ds : List Content} (hempty : cs = [] ↔ ds = [])
    (hsame : pruneAll types cascade cs = pruneAll types cascade ds) (rest : List Content) :
    pruneAll types cascade (.parent p cs :: rest) =
      pruneAll types cascade (.parent p ds :: rest) := by
  have hprune : prune types cascade (.parent p cs) = prune types cascade (.parent p ds) := by
    cases cs with
    | nil => rw [hempty.mp rfl]
    | cons c others =>
      cases ds with
      | nil => exact absurd (hempty.mpr rfl) (List.cons_ne_nil c others)
      | cons d others' => rw [prune, prune, hsame]
  rw [pruneAll, pruneAll, hprune]
  rfl

theorem pruneAll_congr {R : Content → Content → Prop} {cs ds : List Content}
    (h : List.Forall₂ R cs ds) (hplace : ∀ c ∈ cs, ∀ d, R c d → ∀ rest,
      pruneAll types cascade (c :: rest) = pruneAll types cascade (d :: rest)) :
    pruneAll types cascade cs = pruneAll types cascade ds := by
  induction h with
  | nil => rfl
  | @cons c d cs ds hcd _ ih =>
    have hrest := ih fun c hc => hplace c (List.mem_cons_of_mem _ hc)
    have hhead := hplace c List.mem_cons_self d hcd cs
    rw [hhead, pruneAll, pruneAll, hrest]

theorem forall₂_nil_iff {R : Content → Content → Prop} {cs ds : List Content}
    (h : List.Forall₂ R cs ds) : cs = [] ↔ ds = [] := by
  rw [← List.length_eq_zero_iff, h.length_eq, List.length_eq_zero_iff]

theorem Content.Varies.pruneAll_cons {c d : Content} (h : c.Varies types d)
    (rest : List Content) :
    pruneAll types cascade (c :: rest) = pruneAll types cascade (d :: rest) := by
  induction c generalizing d rest with
  | leaf l =>
    cases h with
    | dropped hc hd => rw [pruneAll_cons_of_mem hc, pruneAll_cons_of_mem hd]
    | leaf => rfl
  | parent p cs ih =>
    cases h with
    | dropped hc hd => rw [pruneAll_cons_of_mem hc, pruneAll_cons_of_mem hd]
    | parent _ below =>
      have hsame := pruneAll_congr below fun c hc d hcd rest => ih c hc hcd rest
      exact pruneAll_cons_parent p (forall₂_nil_iff below) hsame rest

theorem pruneAll_of_varies {cs ds : List Content} (h : List.Forall₂ (Content.Varies types) cs ds) :
    pruneAll types cascade cs = pruneAll types cascade ds :=
  pruneAll_congr h fun _ _ _ hcd rest => hcd.pruneAll_cons rest

theorem Node.Varies.remove_eq {n m : Node} (h : n.Varies types m) :
    n.remove types cascade = m.remove types cascade := by
  cases h with
  | root below => rw [remove, remove, pruneAll_of_varies below]
  | leaf l => rfl
  | parent p below => rw [remove, remove, pruneAll_of_varies below]

def Definition.target (d : Definition) : String × Option String :=
  (d.url, d.title)

/-- Definitions that give every identifier the same target. -/
def SameTargets (sources sources' : Entries Definition) : Prop :=
  ∀ identifier, (sources.get? identifier).map Definition.target =
    (sources'.get? identifier).map Definition.target

theorem SameTargets.document?_eq {sources sources' : Entries Definition}
    (h : SameTargets sources sources') (l : Leaf) : l.document? sources = l.document? sources' := by
  cases l with
  | imageReference identifier label alt =>
    have hidentifier := h identifier
    rw [Leaf.document?, Leaf.document?]
    cases hd : sources.get? identifier with
    | none =>
      rw [hd, Option.map_none, eq_comm, Option.map_eq_none_iff] at hidentifier
      rw [hidentifier]
    | some d =>
      rw [hd, Option.map_some, eq_comm, Option.map_eq_some_iff] at hidentifier
      obtain ⟨d', hd', htarget⟩ := hidentifier
      obtain ⟨hurl, htitle⟩ := Prod.mk.inj htarget
      rw [hd']
      dsimp only
      rw [hurl, htitle]
  | _ => rfl

theorem SameTargets.form?_eq {sources sources' : Entries Definition}
    (h : SameTargets sources sources') (n : Node) : n.form? sources = n.form? sources' := by
  cases n with
  | root cs => rfl
  | content c =>
    cases c with
    | leaf l => rw [Node.form?, Node.form?, h.document?_eq]
    | parent p cs => rfl

end Source

open Source (SameTargets)

theorem treeValue_sameTargets {s t : Setting} (hs : s.rules = Registry.defaultRules)
    (ht : t.rules = Registry.defaultRules) (hlimit : s.limit = t.limit)
    (htargets : SameTargets s.sources t.sources) (depth : Int) (node : Source.Node) :
    treeValue s depth node = treeValue t depth node := by
  have hwithin : ∀ level result, s.within level result = t.within level result := by
    intro level result
    rw [Setting.within, Setting.within, Setting.exceeded, Setting.exceeded, hlimit]
  induction node using Source.Node.induction generalizing depth with
  | step node ih =>
    have hchildren : node.children.map (fun c => treeValue s (depth + 1) (.content c)) =
        node.children.map fun c => treeValue t (depth + 1) (.content c) :=
      List.map_congr_left fun c hc => ih c hc (depth + 1)
    rw [treeValue_eq_nodeValue, treeValue_eq_nodeValue, hchildren,
      nodeValue_default hs depth node (List.length_map _),
      nodeValue_default ht depth node (List.length_map _), htargets.form?_eq]
    simp only [hwithin]

/-- Trees that differ in dropped subtrees only, and in which the last definition of each identifier
has the same address and title, are converted alike: to the same document or with the same error,
which gives the same written form of the same node, leaving the same tree after as many drops. -/
theorem transform_confined (p q : Process) {tree tree' : Source.Node}
    (hp : p.registry.IsDefault) (hq : q.registry.IsDefault) (hoptions : q.options = p.options)
    (hvaries : tree.Varies p.options.ignores tree')
    (htargets : ∀ identifier, (tree.lastDefinition? identifier).map Definition.target =
      (tree'.lastDefinition? identifier).map Definition.target) :
    (transform tree p).1 = (transform tree' q).1 ∧
      tree.remove p.options.ignores p.options.cascade =
        tree'.remove q.options.ignores q.options.cascade ∧
      p.filtered tree = q.filtered tree' := by
  have hremove : tree.remove p.options.ignores p.options.cascade =
      tree'.remove q.options.ignores q.options.cascade := by
    rw [hoptions]
    exact hvaries.remove_eq
  have hfiltered : p.filtered tree = q.filtered tree' := congrArg Prod.fst hremove
  refine ⟨?_, hremove, hfiltered⟩
  have hs : (p.setting tree).rules = Registry.defaultRules := hp.rules
  have ht : (q.setting tree').rules = Registry.defaultRules := hq.rules
  have hlimit : (p.setting tree).limit = (q.setting tree').limit :=
    congrArg Options.maxDepth hoptions.symm
  have hsources : SameTargets tree.references tree'.references := by
    intro identifier
    rw [Source.Node.get?_references, Source.Node.get?_references]
    exact htargets identifier
  rw [transform_eq_value hp.coherent (Setting.plain_default hs),
    transform_eq_value hq.coherent (Setting.plain_default ht), hfiltered]
  exact treeValue_sameTargets hs ht hlimit hsources 0 _

def illustration (beside below : Content) : Source.Node :=
  .root [.parent .paragraph [.leaf (.imageReference "x" none none), beside], below]

def illustrationNoted : Source.Node :=
  illustration (.leaf (.footnoteReference "1" none))
    (.parent (.footnoteDefinition "1" none)
      [.text "aside", .leaf (.definition ⟨"x", none, "u", none⟩)])

def illustrationDefined : Source.Node :=
  illustration (.parent (.linkReference "y" none) [.text "other"])
    (.leaf (.definition ⟨"x", some "X", "u", none⟩))

def dropping (ignores : List String) : Process :=
  { options := ⟨ignores, true, none⟩, registry := .default }

theorem illustration_confined :
    illustrationNoted.Varies Options.defaultIgnores illustrationDefined ∧
    (transform illustrationNoted (dropping Options.defaultIgnores)).1 =
      (transform illustrationDefined (dropping Options.defaultIgnores)).1 ∧
    illustrationNoted.remove Options.defaultIgnores true =
      illustrationDefined.remove Options.defaultIgnores true ∧
    (transform (illustration (.leaf (.footnoteReference "1" none))
        (.parent (.footnoteDefinition "1" none) [])) (dropping ["footnoteDefinition"])).1 =
      (transform (illustration (.leaf (.footnoteReference "1" none))
        (.parent (.footnoteDefinition "1" none) [.text "aside"]))
        (dropping ["footnoteDefinition"])).1 := by
  have hdefault : ∀ ignores, (dropping ignores).registry.IsDefault :=
    fun _ => Registry.isDefault_default
  have hvaries : illustrationNoted.Varies Options.defaultIgnores illustrationDefined := by
    refine .root (.cons (.parent _ (.cons (.leaf _) (.cons ?_ .nil))) (.cons ?_ .nil))
    · exact .dropped (by decide) (by decide)
    · exact .dropped (by decide) (by decide)
  have htargets : ∀ identifier,
      (illustrationNoted.lastDefinition? identifier).map Definition.target =
        (illustrationDefined.lastDefinition? identifier).map Definition.target := by
    intro identifier
    have hnoted : illustrationNoted.definitions = [⟨"x", none, "u", none⟩] := rfl
    have hdefined : illustrationDefined.definitions = [⟨"x", some "X", "u", none⟩] := rfl
    rw [Source.Node.lastDefinition?, Source.Node.lastDefinition?, hnoted, hdefined]
    by_cases hx : "x" = identifier
    · simp [hx, Definition.target]
    · simp [hx]
  have hnotes : (illustration (.leaf (.footnoteReference "1" none))
      (.parent (.footnoteDefinition "1" none) [])).Varies ["footnoteDefinition"]
      (illustration (.leaf (.footnoteReference "1" none))
        (.parent (.footnoteDefinition "1" none) [.text "aside"])) := by
    refine .root (.cons (.parent _ (.cons (.leaf _) (.cons (.leaf _) .nil))) (.cons ?_ .nil))
    exact .dropped (by decide) (by decide)
  obtain ⟨hdocument, hremove, -⟩ := transform_confined (dropping Options.defaultIgnores)
    (dropping Options.defaultIgnores) (hdefault _) (hdefault _) rfl hvaries htargets
  obtain ⟨herror, -⟩ := transform_confined (dropping ["footnoteDefinition"])
    (dropping ["footnoteDefinition"]) (hdefault _) (hdefault _) rfl hnotes fun _ => rfl
  exact ⟨hvaries, hdocument, hremove, herror⟩

end RichMarkdown
