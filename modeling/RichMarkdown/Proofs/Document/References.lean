import RichMarkdown.Document.Payload
import RichMarkdown.Proofs.Rule.Outcome
import RichMarkdown.Proofs.Source.Inlining

/-! Image references under the default rules. One with a definition becomes what the image that it
stands for becomes; one without becomes an image without an address. -/
namespace RichMarkdown

open Source (Content Leaf Definition)

variable {s : Setting}

theorem contentValue_mapLeaves (hrules : s.rules = Registry.defaultRules) {f : Leaf → Leaf}
    (hf : ∀ l depth, contentValue s depth (.leaf (f l)) = contentValue s depth (.leaf l))
    {c : Content} (hknown : ∀ m ∈ c.nodes, m.type ∉ Options.defaultIgnores) (depth : Int) :
    contentValue s depth (c.mapLeaves f) = contentValue s depth c := by
  induction c generalizing depth with
  | leaf l => exact hf l depth
  | parent p cs ih =>
    rw [Content.mapLeaves_parent, contentValue_parent hrules, contentValue_parent hrules]
    cases hp : p.form? with
    | none =>
      have hlisted := (form?_eq_none_iff p).mp hp
      exact absurd hlisted (hknown _ (Content.self_mem_nodes _))
    | some form =>
      have hchildren : (cs.map (Content.mapLeaves f)).map (contentValue s (depth + 1)) =
          cs.map (contentValue s (depth + 1)) := by
        rw [List.map_map]
        refine List.map_congr_left fun c hc => ?_
        exact ih c hc (fun m hm => hknown m (Content.mem_nodes_of_mem hc hm)) (depth + 1)
      dsimp only
      rw [hchildren]

theorem contentValue_inlined (hrules : s.rules = Registry.defaultRules)
    {lookup : String → Option Definition}
    (hlookup : ∀ identifier, s.sources.get? identifier = lookup identifier) (l : Leaf)
    (depth : Int) :
    contentValue s depth (.leaf (l.inlined lookup)) = contentValue s depth (.leaf l) := by
  cases l with
  | imageReference identifier label alt =>
    rw [Leaf.inlined]
    cases hd : lookup identifier with
    | none => rfl
    | some d =>
      rw [contentValue_leaf hrules, contentValue_leaf hrules, Leaf.document?, Leaf.document?,
        hlookup, hd]
  | _ => rfl

theorem kept_inlined (hrules : s.rules = Registry.defaultRules)
    {lookup : String → Option Definition}
    (hlookup : ∀ identifier, s.sources.get? identifier = lookup identifier) {types : List String}
    (htypes : Options.defaultIgnores ⊆ types)
    (himages : "image" ∈ types ↔ "imageReference" ∈ types) (cascade : Bool) (cs : List Content)
    (depth : Int) :
    ((cs.map (Content.mapLeaves (Leaf.inlined lookup))).filterMap
        (Content.kept types cascade)).map (contentValue s depth) =
      (cs.filterMap (Content.kept types cascade)).map (contentValue s depth) := by
  have hkept : ∀ c ∈ cs, (c.mapLeaves (Leaf.inlined lookup)).kept types cascade =
      (c.kept types cascade).map (Content.mapLeaves (Leaf.inlined lookup)) :=
    fun c _ => Content.kept_mapLeaves (Leaf.contains_inlined himages lookup) c
  rw [Content.filterMap_kept_map hkept, List.map_map]
  refine List.map_congr_left fun c hc => ?_
  obtain ⟨source, -, hsource⟩ := List.mem_filterMap.mp hc
  have hknown : ∀ m ∈ c.nodes, m.type ∉ Options.defaultIgnores := fun m hm hlisted =>
    Content.type_not_mem_of_kept hsource m hm (htypes hlisted)
  exact contentValue_mapLeaves hrules (contentValue_inlined hrules hlookup) hknown depth

theorem convert_undefined {p : Process} (hdefault : p.registry.IsDefault) {identifier : String}
    (hsource : p.sources.get? identifier = none)
    (hdepth : ∀ limit, p.options.maxDepth = some limit → p.depth < limit)
    (label alt : Option String) :
    (convert (.content (.leaf (.imageReference identifier label alt))) p).1 = .ok (.ofAlt alt) := by
  let s : Setting := ⟨Registry.defaultRules, p.options.maxDepth, p.sources⟩
  have hfits : p.Fits s p.depth := ⟨hdefault.coherent, hdefault.rules, rfl, rfl, rfl⟩
  have hlevel : ∀ limit, s.limit = some limit → p.depth + 1 ≤ limit := by
    intro limit hlimit
    have hbelow := hdepth limit hlimit
    omega
  have hvalue := (treeValue_evaluates (Setting.plain_default rfl)
    (.content (.leaf (.imageReference identifier label alt))) p.depth p hfits).1
  rw [hvalue, treeValue, contentValue_leaf rfl, Leaf.document?, hsource]
  exact Setting.within_of_le hlevel _

theorem payload_ofAlt (alt : Option String) : (DocNode.ofAlt alt).payload = .obj
    [("type", .str "image"), ("attrs", .obj (optionalField "alt" .str alt))] := by
  cases alt <;> rfl

/-- With the default rules, converting a tree is converting the tree with its image references
inlined, whether they end with a document or at the limit on the depth. A reference without a
definition in the tree becomes an image without an address wherever it is met in the conversion. -/
theorem transform_inlined (p q : Process) (cs : List Content) (hp : p.registry.IsDefault)
    (hq : q.registry.IsDefault) (hoptions : q.options = p.options)
    (hignores : Options.defaultIgnores ⊆ p.options.ignores)
    (himages : "image" ∈ p.options.ignores ↔ "imageReference" ∈ p.options.ignores) :
    (transform (Source.Node.root cs).inlined q).1 = (transform (.root cs) p).1 ∧
    (∀ e, (transform (.root cs) p).1 = .error e →
      ∃ limit, p.options.maxDepth = some limit ∧ e = .tooDeep limit) ∧
    ∀ (r : Process) (identifier : String) (label alt : Option String),
      r.registry.IsDefault → r.sources = (Source.Node.root cs).references →
      (∀ limit, r.options.maxDepth = some limit → r.depth < limit) →
      (Source.Node.root cs).lastDefinition? identifier = none →
      ∃ d, (convert (.content (.leaf (.imageReference identifier label alt))) r).1 = .ok d ∧
        d.type = "image" ∧ d.payload = .obj
          [("type", .str "image"), ("attrs", .obj (optionalField "alt" .str alt))] := by
  have hrules : (p.setting (.root cs)).rules = Registry.defaultRules := hp.rules
  have hsetting : q.setting (Source.Node.root cs).inlined = p.setting (.root cs) := by
    rw [Process.setting, Process.setting, hq.rules, hp.rules, hoptions,
      Source.Node.references_inlined]
  have hlookup := Source.Node.get?_references (.root cs)
  have hsame : (transform (Source.Node.root cs).inlined q).1 = (transform (.root cs) p).1 := by
    rw [hp.transform_root, ← kept_inlined hrules hlookup hignores himages, ← hsetting, ← hoptions]
    exact hq.transform_root _
  refine ⟨hsame, fun e => hp.transform_error hignores, fun r identifier label alt => ?_⟩
  intro hr hsources hdepth hnone
  have hsource : r.sources.get? identifier = none := by
    rw [hsources, Source.Node.get?_references, hnone]
  exact ⟨.ofAlt alt, convert_undefined hr hsource hdepth label alt, rfl, payload_ofAlt alt⟩

def illustrated : List Content :=
  [.parent .paragraph
    [.leaf (.imageReference "a" none (some "first")), .leaf (.imageReference "b" none none)],
    .parent (.footnoteDefinition "1" none) [.leaf (.definition ⟨"a", none, "old", none⟩)],
    .leaf (.definition ⟨"a", none, "new", some "A"⟩)]

def shallow : Process :=
  { options := ⟨Options.defaultIgnores, true, some 3⟩, registry := .default }

def shallowUsed : Process :=
  { shallow with
    registry := shallow.registry.indexed, depth := 7,
    sources := [("b", ⟨"b", none, "stale", none⟩)] }

theorem illustrated_inlined :
    shallow.registry.IsDefault ∧ shallowUsed.registry.IsDefault ∧
    shallowUsed.options = shallow.options ∧
    Options.defaultIgnores ⊆ shallow.options.ignores ∧
    ("image" ∈ shallow.options.ignores ↔ "imageReference" ∈ shallow.options.ignores) ∧
    (Source.Node.root illustrated).lastDefinition? "b" = none ∧
    (transform (Source.Node.root illustrated).inlined shallowUsed).1 =
      (transform (.root illustrated) shallow).1 ∧
    ∃ d, (convert (.content (.leaf (.imageReference "b" none none)))
        (shallow.prepared (.root illustrated))).1 = .ok d ∧
      d.type = "image" ∧ d.payload = .obj
        [("type", .str "image"), ("attrs", .obj (optionalField "alt" .str none))] := by
  have hp : shallow.registry.IsDefault := Registry.isDefault_default
  have hq : shallowUsed.registry.IsDefault :=
    ⟨hp.coherent.indexed, (Registry.indexed_rules _).trans hp.rules⟩
  have hignores : Options.defaultIgnores ⊆ shallow.options.ignores := List.Subset.refl _
  have himages :
      "image" ∈ shallow.options.ignores ↔ "imageReference" ∈ shallow.options.ignores := by
    decide
  have hnone : (Source.Node.root illustrated).lastDefinition? "b" = none := by decide
  have hdepth : ∀ limit, (shallow.prepared (.root illustrated)).options.maxDepth = some limit →
      (shallow.prepared (.root illustrated)).depth < limit := by
    intro limit hlimit
    cases hlimit
    decide
  obtain ⟨hsame, -, hundefined⟩ :=
    transform_inlined shallow shallowUsed illustrated hp hq rfl hignores himages
  exact ⟨hp, hq, rfl, hignores, himages, hnone, hsame,
    hundefined _ "b" none none hp rfl hdepth hnone⟩

end RichMarkdown
