import Mathlib.Logic.Relation
import RichMarkdown.Proofs.Markup.Build

/-! Syntax trees that cut the same text differently. Where texts are cut, what stands for nothing
and what only groups other nodes does not show in the source tree. -/
namespace RichMarkdown.Markup

open Source (Content)
open Build (Alike)

def textTypes : List String :=
  ["text", "text_special"]

def groupTypes : List String :=
  ["inline", "thead", "tbody", "footnote_block"]

/-- A node that stands for nothing: an empty text, the anchor of a footnote, or a node of a type
that has no element. -/
inductive Node.Blank (n : Node) : Prop
  | text (type : n.type ∈ textTypes) (content : n.content = "")
  | anchor (type : n.type = "footnote_anchor")
  | unknown (type : Element.ofType? n.type = none)

/-- One change to how a list of nodes is cut, in the list itself or anywhere below it but in an
image. -/
inductive Recut : List Node → List Node → Prop
  | split {n left right : Node} (types : ∀ m ∈ [n, left, right], m.type ∈ textTypes)
      (content : n.content = left.content ++ right.content) : Recut [n] [left, right]
  | insert {n : Node} (blank : n.Blank) : Recut [] [n]
  | wrap {group : Node} (type : group.type ∈ groupTypes) : Recut group.children [group]
  | within {n : Node} {children : List Node} (type : n.type ≠ "image")
      (below : Recut n.children children) : Recut [n] [{ n with children }]
  | among (before after : List Node) {ms ns : List Node} (between : Recut ms ns) :
      Recut (before ++ ms ++ after) (before ++ ns ++ after)

theorem ofType?_text : ∀ type ∈ textTypes, Element.ofType? type = some .text := by
  decide

theorem ofType?_group : ∀ type ∈ groupTypes, Element.ofType? type = some .group := by
  decide

theorem buildJoined_singleton (n : Node) : buildJoined [n] = do
    return joinTexts (← buildNode n) := by
  rw [buildJoined, buildNodes_singleton]

def textNodes (value : String) : List Content :=
  if value.isEmpty then [] else [.text value]

theorem buildNode_text {n : Node} (h : n.type ∈ textTypes) :
    buildNode n = pure (textNodes n.content) := by
  rw [buildNode_eq, ofType?_text _ h]
  rfl

theorem joinTexts_textNodes (a b : String) :
    joinTexts (textNodes (a ++ b)) = joinTexts (textNodes a ++ textNodes b) := by
  by_cases ha : a = ""
  · rw [ha, String.empty_append]
    rfl
  · by_cases hb : b = ""
    · rw [hb, String.append_empty]
      exact congrArg joinTexts (List.append_nil _).symm
    · have hab : textNodes (a ++ b) = [.text (a ++ b)] := by simp [textNodes, ha]
      have hcut : textNodes a ++ textNodes b = [.text a, .text b] := by simp [textNodes, ha, hb]
      rw [hab, hcut]
      rfl

theorem buildJoined_group {group : Node} (h : group.type ∈ groupTypes) :
    buildJoined [group] = buildJoined group.children := by
  rw [buildJoined_singleton, buildNode_eq, ofType?_group _ h]
  simp [Element.build, buildJoined]

theorem buildJoined_blank {n : Node} (h : n.Blank) : Alike (buildJoined []) (buildJoined [n]) := by
  rw [buildJoined_singleton]
  cases h with
  | text type content =>
    rw [buildNode_text type, content]
    exact .pure []
  | anchor type =>
    rw [buildNode_eq, type]
    exact .pure []
  | unknown type =>
    rw [buildNode_eq, type]
    exact fun _ _ => rfl

theorem Recut.alike {ms ns : List Node} (h : Recut ms ns) :
    Alike (buildJoined ms) (buildJoined ns) := by
  induction h with
  | @split n left right types content =>
    rw [buildJoined_singleton, ← List.singleton_append, buildJoined_append, buildJoined_singleton,
      buildJoined_singleton, buildNode_text (types n (by simp)),
      buildNode_text (types left (by simp)), buildNode_text (types right (by simp)), content]
    simp only [pure_bind, joinTexts_textNodes, joinTexts_joinTexts_append,
      joinTexts_append_joinTexts]
    exact .pure _
  | insert blank => exact buildJoined_blank blank
  | @wrap group type =>
    rw [buildJoined_group type]
    exact buildJoined_alike group.children
  | within type _ ih =>
    rw [buildJoined_singleton, buildJoined_singleton]
    exact (buildNode_alike (fun himage => absurd himage type) ih).bind fun cs => .pure _
  | among before after _ ih =>
    rw [buildJoined_append, buildJoined_append, buildJoined_append, buildJoined_append]
    have hfront := (buildJoined_alike before).bind fun first => ih.bind fun others =>
      Alike.pure (joinTexts (first ++ others))
    exact hfront.bind fun first => (buildJoined_alike after).bind fun others =>
      .pure (joinTexts (first ++ others))

theorem buildJoined_recut {ms ns : List Node} (h : Relation.EqvGen Recut ms ns) :
    (buildJoined ns []).1 = (buildJoined ms []).1 := by
  induction h with
  | rel ms ns h => exact (h.alike [] []).symm
  | refl ns => rfl
  | symm ms ns _ ih => exact ih.symm
  | trans ls ms ns _ _ ih ih' => exact ih'.trans ih

theorem build_answer (root : Node) :
    (build root).1 = (buildJoined root.children []).1.map .root := by
  change ((do return .root (joinTexts (← buildNodes root.children)) : Build Source.Node) []).1 = _
  rw [buildJoined, Build.run_bind, Build.run_bind]
  rcases buildNodes root.children [] with ⟨result, log⟩
  cases result <;> rfl

/-- However its text is cut, a syntax tree has the same source tree, or the same error. Any number
of changes may be made, one way or the other. -/
theorem build_recut {root root' : Node}
    (h : Relation.EqvGen Recut root.children root'.children) :
    (build root').1 = (build root).1 := by
  rw [build_answer, build_answer, buildJoined_recut h]

def textNode (content : String) : Node :=
  { type := "text", content }

def paragraph (children : List Node) : Node :=
  { type := "paragraph", children }

theorem line_recut :
    Relation.EqvGen Recut [paragraph [textNode "ab"]] [paragraph
      [{ type := "inline", children := [textNode "a", { type := "footnote_anchor" },
        textNode "b"] }]] ∧
    (build { type := "root", children := [paragraph [textNode "ab"]] }).1 =
      .ok (.root [.parent .paragraph [.text "ab"]]) ∧
    (build { type := "root", children := [paragraph
      [{ type := "inline", children := [textNode "a", { type := "footnote_anchor" },
        textNode "b"] }]] }).1 = .ok (.root [.parent .paragraph [.text "ab"]]) := by
  let anchor : Node := { type := "footnote_anchor" }
  let group : Node := { type := "inline", children := [textNode "a", anchor, textNode "b"] }
  have hsplit : Recut [textNode "ab"] [textNode "a", textNode "b"] :=
    .split (by simp [textNode, textTypes]) rfl
  have hinsert : Recut [textNode "a", textNode "b"] [textNode "a", anchor, textNode "b"] :=
    .among [textNode "a"] [textNode "b"] (.insert (.anchor rfl))
  have hwrap : Recut group.children [group] := .wrap (by decide)
  have hbelow : ∀ {ms ns}, Recut ms ns →
      Relation.EqvGen Recut [paragraph ms] [paragraph ns] :=
    fun h => .rel _ _ (.within (by simp [paragraph]) h)
  have hrecut := ((hbelow hsplit).trans _ _ _ (hbelow hinsert)).trans _ _ _ (hbelow hwrap)
  have hbuild : (build { type := "root", children := [paragraph [textNode "ab"]] }).1 =
      .ok (.root [.parent .paragraph [.text "ab"]]) := rfl
  exact ⟨hrecut, hbuild, (build_recut hrecut).trans hbuild⟩

end RichMarkdown.Markup
