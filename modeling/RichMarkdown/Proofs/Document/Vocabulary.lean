import RichMarkdown.Proofs.Document.Nodes
import RichMarkdown.Proofs.Rule.Outcome

/-! Documents of the default rules: which kinds of nodes and marks they have, and that every tree
has one once the kinds without a rule are dropped. -/
namespace RichMarkdown

open Source (Content Leaf Parent)

namespace DocNode

def types : List String :=
  ["doc", "paragraph", "blockquote", "horizontalRule", "heading", "orderedList", "bulletList",
    "listItem", "text", "image", "hardBreak", "table", "tableRow", "tableCell"]

end DocNode

def Mark.types : List String :=
  ["link", "italic", "strong", "strike", "code"]

structure DocNode.Regular (d : DocNode) : Prop where
  type_mem : d.type ∈ types
  text_iff : d.text.isSome ↔ d.type = "text"
  bare_text : d.type = "text" → d.attrs = none ∧ d.content = none
  marks_ne_nil : d.marks ≠ some []
  mark_mem : ∀ m ∈ d.marks.getD [], m.type ∈ Mark.types

/-- A node with only regular nodes in it, none of which is a whole document. -/
def DocNode.Inner (d : DocNode) : Prop :=
  ∀ m ∈ d.nodes, m.Regular ∧ m.type ≠ "doc"

namespace DocNode

theorem Regular.applyMark {d : DocNode} (h : d.Regular) {m : Mark} (hm : m.type ∈ Mark.types) :
    (d.applyMark m).Regular where
  type_mem := h.type_mem
  text_iff := h.text_iff
  bare_text := h.bare_text
  marks_ne_nil := by simp [DocNode.applyMark]
  mark_mem := by
    intro n hn
    rcases List.mem_cons.mp hn with rfl | hn
    · exact hm
    · exact h.mark_mem n hn

theorem regular_ofText (s : String) : (ofText s).Regular where
  type_mem := by simp [ofText, types]
  text_iff := by simp [ofText]
  bare_text := fun _ => ⟨rfl, rfl⟩
  marks_ne_nil := by simp [ofText]
  mark_mem := by simp [ofText]

theorem regular_of_type {type : String} (hmem : type ∈ types) (htext : type ≠ "text")
    (attrs : Option (List (String × Json))) (content : Option (List DocNode)) :
    Regular { type, attrs, content } where
  type_mem := hmem
  text_iff := by simp [htext]
  bare_text := fun h => absurd h htext
  marks_ne_nil := by simp
  mark_mem := by simp

theorem inner_iff (d : DocNode) :
    d.Inner ↔ (d.Regular ∧ d.type ≠ "doc") ∧ ∀ c ∈ d.content.getD [], c.Inner :=
  d.forall_nodes_iff

theorem Inner.applyMark {d : DocNode} (h : d.Inner) {m : Mark} (hm : m.type ∈ Mark.types) :
    (d.applyMark m).Inner := by
  rw [inner_iff] at h ⊢
  exact ⟨⟨h.1.1.applyMark hm, h.1.2⟩, h.2⟩

theorem inner_ofText (s : String) : (ofText s).Inner :=
  (inner_iff _).mpr ⟨⟨regular_ofText s, by simp [ofText]⟩, by simp [ofText]⟩

theorem inner_of_type {type : String} (hmem : type ∈ types) (htext : type ≠ "text")
    (hdoc : type ≠ "doc") (attrs : Option (List (String × Json)))
    {content : Option (List DocNode)} (hcontent : ∀ c ∈ content.getD [], c.Inner) :
    Inner { type, attrs, content } :=
  (inner_iff _).mpr ⟨⟨regular_of_type hmem htext attrs content, hdoc⟩, hcontent⟩

theorem inner_around {type : String} (hmem : type ∈ types) (htext : type ≠ "text")
    (hdoc : type ≠ "doc") {ds : List DocNode} (h : ∀ d ∈ ds, d.Inner) :
    (around type ds).Inner := by
  refine inner_of_type hmem htext hdoc none ?_
  cases ds with
  | nil => simp
  | cons first rest => exact h

theorem inside_around (type : String) (ds : List DocNode) :
    (around type ds).inside = nodesOf ds := by
  cases ds <;> rfl

end DocNode

open DocNode (Inner)

theorem document?_inner {sources : Entries Source.Definition} {l : Leaf} {d : DocNode}
    (h : l.document? sources = some d) : d.Inner := by
  have hbare : ∀ type attrs, type ∈ DocNode.types → type ≠ "text" → type ≠ "doc" →
      Inner { type, attrs } :=
    fun type attrs hmem htext hdoc => DocNode.inner_of_type hmem htext hdoc attrs (by simp)
  cases l with
  | text value => cases h; exact DocNode.inner_ofText value
  | inlineCode value => cases h; exact (DocNode.inner_ofText value).applyMark (by decide)
  | hardBreak => cases h; exact hbare _ _ (by decide) (by decide) (by decide)
  | thematicBreak => cases h; exact hbare _ _ (by decide) (by decide) (by decide)
  | code lang info value =>
    cases h
    refine DocNode.inner_of_type (by decide) (by decide) (by decide) _ fun c hc => ?_
    cases List.mem_singleton.mp hc
    exact DocNode.inner_ofText value
  | image url title alt => cases h; exact hbare _ _ (by decide) (by decide) (by decide)
  | imageReference identifier label alt =>
    rw [Leaf.document?] at h
    split at h <;> cases h <;> exact hbare _ _ (by decide) (by decide) (by decide)
  | definition d => cases h
  | footnoteReference identifier label => cases h

theorem form?_inner {p : Parent} {form : Form} (h : p.form? = some form) :
    form.Preserves Inner := by
  have haround : ∀ type, type ∈ DocNode.types → type ≠ "text" → type ≠ "doc" →
      (Form.block (.around type)).Preserves Inner :=
    fun type hmem htext hdoc ds hds => DocNode.inner_around hmem htext hdoc hds
  have hmark : ∀ m : Mark, m.type ∈ Mark.types → (Form.mark m).Preserves Inner := by
    intro m hm
    exact ⟨(DocNode.inner_ofText "").applyMark hm, fun d hd => hd.applyMark hm⟩
  cases p with
  | heading level =>
    cases h
    exact fun ds hds => DocNode.inner_of_type (by decide) (by decide) (by decide) _ hds
  | list ordered start =>
    cases h
    intro ds hds
    cases ordered <;>
      exact DocNode.inner_of_type (by decide) (by decide) (by decide) _ hds
  | emphasis => cases h; exact hmark _ (by decide)
  | strong => cases h; exact hmark _ (by decide)
  | delete => cases h; exact hmark _ (by decide)
  | link url title => cases h; exact hmark _ (by simp [Mark.types])
  | linkReference identifier label => cases h
  | footnoteDefinition identifier label => cases h
  | _ => cases h; exact haround _ (by decide) (by decide) (by decide)

theorem types_disjoint : ∀ type ∈ DocNode.types, type ∉ Options.defaultIgnores ∧
    ∀ rule ∈ Registry.defaultRules, rule.2.kind = .mark →
      type ≠ rule.1 ∧ type ∉ rule.2.claims := by
  decide

/-- With the default rules and no limit on the depth, every tree has a document once the kinds
without a rule are dropped: a single whole document on top, with only regular nodes in it. Nothing
of a dropped kind is left to be converted. -/
theorem transform_regular (p : Process) (cs : List Content) (hdefault : p.registry.IsDefault)
    (hlimit : p.options.maxDepth = none) (hignores : Options.defaultIgnores ⊆ p.options.ignores) :
    (∀ c ∈ Content.nodesOf (p.filtered (.root cs)).children, c.type ∉ p.options.ignores) ∧
    ∃ d, (transform (.root cs) p).1 = .ok d ∧
      d.type = "doc" ∧ (∀ m ∈ d.inside, m.type ≠ "doc") ∧
      ∀ m ∈ d.nodes, m.Regular ∧ m.type ∉ Options.defaultIgnores ∧
        ∀ rule ∈ Registry.defaultRules, rule.2.kind = .mark →
          m.type ≠ rule.1 ∧ m.type ∉ rule.2.claims := by
  refine ⟨Source.type_not_mem_of_remove_root, ?_⟩
  cases hd : (transform (.root cs) p).1 with
  | error e =>
    obtain ⟨limit, hsome, -⟩ := hdefault.transform_error hignores hd
    rw [hlimit] at hsome
    cases hsome
  | ok d =>
    obtain ⟨ds, rfl, hinner⟩ := hdefault.transform_invariant (fun _ _ => document?_inner)
      (fun _ _ => form?_inner) hd
    have hinside : ∀ m ∈ (DocNode.around "doc" ds).inside, m.Regular ∧ m.type ≠ "doc" := by
      intro m hm
      rw [DocNode.inside_around, DocNode.mem_nodesOf] at hm
      obtain ⟨d, hd, hm⟩ := hm
      exact hinner d hd m hm
    have hregular : ∀ m ∈ (DocNode.around "doc" ds).nodes, m.Regular := by
      rw [DocNode.nodes_eq, List.forall_mem_cons]
      exact ⟨DocNode.regular_of_type (by decide) (by decide) _ _, fun m hm => (hinside m hm).1⟩
    exact ⟨_, rfl, rfl, fun m hm => (hinside m hm).2, fun m hm =>
      ⟨hregular m hm, types_disjoint m.type (hregular m hm).type_mem⟩⟩

def annotated : List Content :=
  [.parent .paragraph
    [.parent .emphasis [.leaf (.footnoteReference "1" none)],
      .parent (.link "u" none) [.leaf (.inlineCode "x")]],
    .parent (.footnoteDefinition "1" none) [.parent .paragraph [.text "note"]]]

def withoutImages : Process :=
  { options := ⟨"image" :: Options.defaultIgnores, false, none⟩, registry := .default }

theorem annotated_regular :
    withoutImages.registry.IsDefault ∧ withoutImages.options.maxDepth = none ∧
    Options.defaultIgnores ⊆ withoutImages.options.ignores ∧
    (∀ c ∈ Content.nodesOf (withoutImages.filtered (.root annotated)).children,
      c.type ∉ withoutImages.options.ignores) ∧
    ∃ d, (transform (.root annotated) withoutImages).1 = .ok d ∧
      d.type = "doc" ∧ (∀ m ∈ d.inside, m.type ≠ "doc") ∧
      ∀ m ∈ d.nodes, m.Regular ∧ m.type ∉ Options.defaultIgnores ∧
        ∀ rule ∈ Registry.defaultRules, rule.2.kind = .mark →
          m.type ≠ rule.1 ∧ m.type ∉ rule.2.claims :=
  have hdefault : withoutImages.registry.IsDefault := Registry.isDefault_default
  have hignores : Options.defaultIgnores ⊆ withoutImages.options.ignores :=
    List.subset_cons_self _ _
  ⟨hdefault, rfl, hignores, transform_regular withoutImages annotated hdefault rfl hignores⟩

end RichMarkdown
