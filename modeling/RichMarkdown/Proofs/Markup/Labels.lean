import RichMarkdown.Proofs.Markup.PlainText
import RichMarkdown.Proofs.Source.Identifier
import RichMarkdown.Proofs.Source.References
import RichMarkdown.Proofs.Validation

/-! Labels of definitions and of the images that refer to them. Where two labels differ in case only,
the image finds the definition unless a capital sigma ends a word in one label and not in the
other. -/
namespace RichMarkdown

namespace Markup

open Source (Content normalizeIdentifier caseless SameFinalSigmas)

theorem checked_eq_ok_iff {α : Type} {title : String} {c : Check α} {a : α} :
    checked title c = .ok a ↔ c = .ok a :=
  Check.mapError_titled_eq_ok_iff

structure Node.Defines (n : Node) (label : String) : Prop where
  type : n.type = "definition"
  id : Entries.get? "id" n.data = some (.str label)

structure Node.Refers (n : Node) (label : String) : Prop where
  type : n.type = "image"
  label : given? "label" n.data = some (.str label)

theorem identifier_of_definitionOf {data : List (String × Json)} {label : String}
    {d : Source.Definition} (hid : Entries.get? "id" data = some (.str label))
    (h : definitionOf data = .ok d) : d.identifier = normalizeIdentifier label := by
  have hrequired : required "id" data = .ok (.str label) := by rw [required, hid]
  unfold definitionOf at h
  rw [hrequired] at h
  -- The identifier is settled before anything else is read: the url may be missing, and the check
  -- may turn down the other fields.
  change (required "url" data >>= fun url => checked "Definition" _) = .ok d at h
  cases hurl : required "url" data with
  | error e =>
    rw [hurl] at h
    cases h
  | ok url =>
    rw [hurl] at h
    obtain ⟨make, title, hmake, -, rfl⟩ := Check.app_eq_ok_iff.mp (checked_eq_ok_iff.mp h)
    obtain ⟨text, address, -, -, rfl⟩ := Check.map2_eq_ok_iff.mp hmake
    rfl

theorem buildNode_of_definition {n : Node} (type : n.type = "definition") :
    buildNode n = do return [.leaf (.definition (← definitionOf n.data))] := by
  rw [buildNode_eq, type]
  rfl

theorem buildNode_defines {n : Node} {label : String} (h : n.Defines label) {log : List String}
    {cs : List Content} (hbuilt : (buildNode n log).1 = .ok cs) :
    ∃ d, cs = [.leaf (.definition d)] ∧ d.identifier = normalizeIdentifier label := by
  rw [buildNode_of_definition h.type] at hbuilt
  cases hd : definitionOf n.data with
  | error e =>
    rw [hd] at hbuilt
    cases hbuilt
  | ok d =>
    rw [hd] at hbuilt
    cases hbuilt
    exact ⟨d, rfl, identifier_of_definitionOf h.id hd⟩

theorem buildNode_refers {n : Node} {label : String} (h : n.Refers label) (log : List String) :
    buildNode n log = (.ok [.leaf (.imageReference (normalizeIdentifier label) (some label)
      (some n.plainText))], log) := by
  have himage : imageOf n.plainText n.attrs n.data =
      .ok (.imageReference (normalizeIdentifier label) (some label) (some n.plainText)) := by
    unfold imageOf
    rw [h.label]
    rfl
  rw [buildNode_of_image h.type, himage]
  rfl

/-- Two labels that differ in case only have the same identifier just when capital sigmas end words
at the same places in them, as is so where neither has a capital sigma. In just this case an image
that refers to the one label finds, in any tree with a definition built from the other, what the
index has for that definition. -/
theorem references_match_iff {a b : String} (h : caseless a = caseless b) :
    (normalizeIdentifier a = normalizeIdentifier b ↔ SameFinalSigmas a b) ∧
    ('Σ' ∉ a.toList → 'Σ' ∉ b.toList → normalizeIdentifier a = normalizeIdentifier b) ∧
    ∀ (n m : Node) (log log' : List String) (cs : List Content),
      n.Defines a → m.Refers b → (buildNode n log).1 = .ok cs →
      ∃ d identifier, cs = [.leaf (.definition d)] ∧
        buildNode m log' =
          (.ok [.leaf (.imageReference identifier (some b) (some m.plainText))], log') ∧
        ∀ tree : Source.Node, .content (.leaf (.definition d)) ∈ tree.nodes →
          ∃ e, tree.references.get? d.identifier = some e ∧
            (tree.references.get? identifier = some e ↔ SameFinalSigmas a b) := by
  have hsame := Source.normalizeIdentifier_eq_iff h
  refine ⟨hsame, ?_, ?_⟩
  · intro ha hb
    exact hsame.mpr (Source.sameFinalSigmas_of_notMem ha hb)
  · intro n m log log' cs hn hm hbuilt
    obtain ⟨d, rfl, hidentifier⟩ := buildNode_defines hn hbuilt
    refine ⟨d, normalizeIdentifier b, rfl, buildNode_refers hm log', fun tree htree => ?_⟩
    rw [← hsame, ← hidentifier]
    have hdefinition : d ∈ tree.definitions := Source.Node.mem_definitions_iff.mpr htree
    exact Source.Node.get?_references_of_definition hdefinition (normalizeIdentifier b)

def definitionNode (label : String) : Node :=
  { type := "definition", data := [("id", .str label), ("url", .str "u")] }

def imageNode (label : String) : Node :=
  { type := "image", data := [("label", .str label)] }

theorem imageNode_refers {label : String} (h : label ≠ "") : (imageNode label).Refers label := by
  have htruthy : (Json.str label).isTruthy = true := by simpa [Json.isTruthy] using h
  exact ⟨rfl, Option.filter_eq_some_iff.mpr ⟨rfl, htruthy⟩⟩

theorem buildNode_definitionNode (label : String) : buildNode (definitionNode label) =
    pure [.leaf (.definition ⟨normalizeIdentifier label, none, "u", none⟩)] := by
  rw [buildNode_of_definition rfl]
  rfl

theorem capitals_match :
    caseless "ΑΣ" = caseless "αΣ" ∧ (definitionNode "ΑΣ").Defines "ΑΣ" ∧
    (imageNode "αΣ").Refers "αΣ" ∧ ∃ d identifier,
      (buildNode (definitionNode "ΑΣ") []).1 = .ok [.leaf (.definition d)] ∧
      buildNode (imageNode "αΣ") [] =
        (.ok [.leaf (.imageReference identifier (some "αΣ") (some ""))], []) ∧
      ∀ tree : Source.Node, .content (.leaf (.definition d)) ∈ tree.nodes →
        ∃ e, tree.references.get? d.identifier = some e ∧
          tree.references.get? identifier = some e := by
  have hcaseless : caseless "ΑΣ" = caseless "αΣ" := by decide +kernel
  have hdefines : (definitionNode "ΑΣ").Defines "ΑΣ" := ⟨rfl, rfl⟩
  have hrefers : (imageNode "αΣ").Refers "αΣ" := imageNode_refers (by decide)
  obtain ⟨hsame, -, hbuilt⟩ := references_match_iff hcaseless
  have hsigmas : SameFinalSigmas "ΑΣ" "αΣ" := hsame.mp (by decide +kernel)
  have hdefinition := congrFun (buildNode_definitionNode "ΑΣ") []
  obtain ⟨d, identifier, hd, himage, hfound⟩ :=
    hbuilt _ _ [] [] _ hdefines hrefers (congrArg Prod.fst hdefinition)
  refine ⟨hcaseless, hdefines, hrefers, d, identifier, ?_, himage, fun tree htree => ?_⟩
  · rw [← hd, hdefinition]
    rfl
  · obtain ⟨e, he, hiff⟩ := hfound tree htree
    exact ⟨e, he, hiff.mpr hsigmas⟩

/-- A word that ends in a capital sigma in the definition and in a small one in the image: the index
has no entry for the image. -/
theorem finalSigma_unmatched :
    caseless "ΑΣ" = caseless "ασ" ∧ normalizeIdentifier "ΑΣ" ≠ normalizeIdentifier "ασ" ∧
    ∃ tree : Source.Node,
      (build { type := "root", children := [definitionNode "ΑΣ", imageNode "ασ"] }).1 = .ok tree ∧
      tree.children = [.leaf (.definition ⟨"ας", none, "u", none⟩),
        .leaf (.imageReference "ασ" (some "ασ") (some ""))] ∧
      tree.references.get? "ασ" = none := by
  have hdefined : normalizeIdentifier "ΑΣ" = "ας" := by decide +kernel
  have hreferred : normalizeIdentifier "ασ" = "ασ" := by decide +kernel
  have himage := funext (buildNode_refers (imageNode_refers (by decide : "ασ" ≠ "")))
  rw [hdefined, hreferred]
  refine ⟨by decide +kernel, by decide, .root _, ?_, rfl, ?_⟩
  · rw [build_answer, buildJoined]
    simp only [buildNodes, buildNode_definitionNode, hdefined, himage, hreferred]
    rfl
  · rw [Source.Node.references_eq]
    decide

end Markup

end RichMarkdown
