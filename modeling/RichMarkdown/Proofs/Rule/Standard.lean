import RichMarkdown.Proofs.Rule.Defaults

/-! Registries whose rules are default rules or have no conversion of their own. Each such rule
makes a block of the children of a node or marks its first child, which gives the value of a tree
from the top down. -/
namespace RichMarkdown

open Source (Content Leaf Parent Definition)

namespace Registry

theorem firstClaim_default : ∀ entry ∈ defaultRules, ∀ type ∈ entry.2.claims,
    firstClaim type defaultRules = some entry := by
  simp only [defaultRules, nodeRule, markRule, List.forall_mem_cons, List.not_mem_nil,
    false_implies, implies_true, and_true]
  exact ⟨rfl, rfl, rfl, rfl, rfl, rfl, rfl, rfl, rfl, rfl, rfl, rfl, rfl, rfl, rfl, rfl, rfl, rfl,
    rfl, rfl⟩

end Registry

/-- A default rule, or a rule without a conversion of its own. -/
def Rule.Standard (rule : Rule) : Prop :=
  rule.convert = none ∨ ∃ entry ∈ Registry.defaultRules, entry.2 = rule

theorem Rule.Standard.entry {rule : Rule} (h : rule.Standard) {conversion : Conversion}
    (hconvert : rule.convert = some conversion) :
    ∃ entry ∈ Registry.defaultRules, entry.2 = rule := by
  rcases h with hnone | hentry
  · rw [hnone] at hconvert
    cases hconvert
  · exact hentry

structure Registry.IsStandard (r : Registry) : Prop where
  coherent : r.Coherent
  rules : ∀ p ∈ r.rules, p.2.Standard

theorem Registry.isStandard_ofPairs {pairs : List (String × Rule)}
    (h : ∀ p ∈ pairs, p.2.Standard) : (ofPairs pairs).IsStandard where
  coherent := coherent_ofPairs pairs
  rules := fun p hp => h p (Entries.mem_of_mem_ofPairs hp)

def Setting.Standard (s : Setting) : Prop :=
  ∀ p ∈ s.rules, p.2.Standard

theorem Setting.Standard.plain {s : Setting} (h : s.Standard) : s.Plain := by
  intro p hp conversion hconvert node
  obtain ⟨entry, hentry, heq⟩ := (h p hp).entry hconvert
  have hplain : (⟨Registry.defaultRules, none, []⟩ : Setting).Plain := plain_default rfl
  rw [← heq] at hconvert
  exact hplain entry hentry conversion hconvert node

def Source.Node.form? (sources : Entries Definition) : Source.Node → Option Form
  | .root _ => some (.block (.around "doc"))
  | .content (.leaf l) => (l.document? sources).map fun d => .block fun _ => d
  | .content (.parent p _) => p.form?

theorem nodeValue_default {s : Setting} (hrules : s.rules = Registry.defaultRules) (depth : Int)
    (node : Source.Node) {results : List Result} (hlength : results.length = node.children.length) :
    nodeValue s depth node results = match node.form? s.sources with
      | some form => s.within (depth + 1) (form.result results)
      | none => .error (.unmapped node.type node.dump) := by
  cases node with
  | root cs =>
    rw [nodeValue, hrules]
    rfl
  | content c =>
    cases c with
    | parent p cs => exact nodeValue_parent hrules depth p hlength
    | leaf l =>
      have hnil : results = [] := List.eq_nil_of_length_eq_zero hlength
      have hleaf := contentValue_leaf hrules depth l
      rw [contentValue] at hleaf
      rw [hnil, hleaf, Source.Node.form?]
      cases l.document? s.sources <;> rfl

theorem form?_isSome {entry : String × Rule} (hentry : entry ∈ Registry.defaultRules)
    {node : Source.Node} (hclaims : node.type ∈ entry.2.claims) (sources : Entries Definition) :
    (node.form? sources).isSome := by
  have hdropped : ∀ entry ∈ Registry.defaultRules, ∀ type ∈ entry.2.claims,
      type ∉ Options.defaultIgnores := by
    decide
  have hkept := hdropped entry hentry _ hclaims
  cases node with
  | root cs => rfl
  | content c =>
    cases c with
    | leaf l =>
      rw [Source.Node.form?, Option.isSome_map, Option.isSome_iff_ne_none]
      exact fun hnone => hkept ((document?_eq_none_iff sources l).mp hnone)
    | parent p cs =>
      rw [Source.Node.form?, Option.isSome_iff_ne_none]
      exact fun hnone => hkept ((form?_eq_none_iff p).mp hnone)

namespace Rule

def form (sources : Entries Definition) (name : String) (rule : Rule) (node : Source.Node) : Form :=
  match rule.convert, rule.kind with
  | some _, _ => (node.form? sources).getD (.block (.around name))
  | none, .mark => .mark { type := name }
  | none, _ => .block (.around name)

theorem form_of_none {rule : Rule} (hconvert : rule.convert = none)
    (sources : Entries Definition) (name : String) (node : Source.Node) :
    rule.form sources name node =
      if rule.kind = .mark then .mark { type := name } else .block (.around name) := by
  unfold form
  rw [hconvert]
  cases rule.kind <;> rfl

theorem Standard.default {rule : Rule} (h : rule.Standard) {node : Source.Node}
    (hclaims : node.type ∈ rule.claims) {conversion : Conversion}
    (hconvert : rule.convert = some conversion) :
    ∃ known, Registry.firstClaim node.type Registry.defaultRules = some (known, rule) ∧
      ∀ sources name, node.form? sources = some (rule.form sources name node) := by
  obtain ⟨⟨known, rule⟩, hentry, rfl⟩ := h.entry hconvert
  refine ⟨known, Registry.firstClaim_default _ hentry _ hclaims, fun sources name => ?_⟩
  obtain ⟨form, hform⟩ := Option.isSome_iff_exists.mp (form?_isSome hentry hclaims sources)
  unfold Rule.form
  rw [hconvert, hform]
  rfl

end Rule

theorem Script.value_congr {s t : Setting} (h : s.sources = t.sources) (depth : Int)
    (results : List Result) (script : Script) :
    script.value s depth results = script.value t depth results := by
  induction script with
  | readDepth next ih => exact ih depth
  | readSources next ih =>
    rw [value, value, h]
    exact ih t.sources
  | note message next ih => exact ih
  | child n next ih => exact ih _
  | _ => rfl

variable {s : Setting}

theorem Setting.le_of_within_eq_ok {level : Int} {result : Result} {d : DocNode}
    (h : s.within level result = .ok d) : ∀ n, s.limit = some n → level ≤ n := by
  intro n hn
  rcases Int.lt_or_le n level with hdeep | hle
  · have hexceeded : s.exceeded level = some n := by
      rw [exceeded, hn]
      simpa using hdeep
    rw [within, hexceeded] at h
    cases h
  · exact hle

theorem ruleValue_of_some {rule : Rule} {conversion : Conversion}
    (hconvert : rule.convert = some conversion) (depth : Int) (name : String) (node : Source.Node)
    (results : List Result) :
    ruleValue s depth name rule node results = (conversion node).value s depth results := by
  unfold ruleValue
  rw [hconvert]

theorem ruleValue_form {rule : Rule} (hrule : rule.Standard) {node : Source.Node}
    (hclaims : node.type ∈ rule.claims) (depth : Int) (name : String) {results : List Result}
    (hlength : results.length = node.children.length) :
    ruleValue s depth name rule node results =
      (rule.form s.sources name node).result results := by
  cases hconvert : rule.convert with
  | none =>
    rw [Rule.form_of_none hconvert]
    unfold ruleValue
    rw [hconvert]
    cases rule.kind with
    | mark => cases results <;> rfl
    | node => rfl
    | other kind => rfl
  | some conversion =>
    obtain ⟨known, hdefault, hform⟩ := hrule.default hclaims hconvert
    let base : Setting := ⟨Registry.defaultRules, none, s.sources⟩
    have hbase : ruleValue base (depth - 1 + 1) known rule node results =
        (rule.form s.sources name node).result results := by
      have hnode := nodeValue_default (s := base) rfl (depth - 1) node hlength
      rw [nodeValue, hdefault, hform s.sources name] at hnode
      exact hnode
    rw [ruleValue_of_some hconvert, Int.sub_add_cancel] at hbase
    rw [ruleValue_of_some hconvert, ← hbase]
    exact Script.value_congr (s := s) (t := base) rfl depth results (conversion node)

theorem treeValue_eq_nodeValue (depth : Int) (node : Source.Node) :
    treeValue s depth node = nodeValue s depth node
      (node.children.map fun c => treeValue s (depth + 1) (.content c)) := by
  cases node with
  | root cs =>
    rw [treeValue, contentValues_eq_map]
    rfl
  | content c =>
    cases c with
    | leaf l => rfl
    | parent p cs =>
      rw [treeValue, contentValue, contentValues_eq_map]
      rfl

theorem treeValue_form (hstandard : s.Standard) (depth : Int) (node : Source.Node) :
    treeValue s depth node = match Registry.firstClaim node.type s.rules with
      | none => .error (.unmapped node.type node.dump)
      | some (name, rule) => s.within (depth + 1) ((rule.form s.sources name node).result
          (node.children.map fun c => treeValue s (depth + 1) (.content c))) := by
  rw [treeValue_eq_nodeValue, nodeValue]
  cases hfirst : Registry.firstClaim node.type s.rules with
  | none => rfl
  | some found =>
    obtain ⟨name, rule⟩ := found
    have hrule := hstandard _ (List.mem_of_find?_eq_some hfirst)
    have hclaims := ((Registry.firstClaim_eq_some_iff node.type s.rules _).mp hfirst).1
    exact congrArg (s.within (depth + 1))
      (ruleValue_form hrule hclaims (depth + 1) name (List.length_map _))

theorem treeValue_ok (hstandard : s.Standard) {depth : Int} {node : Source.Node} {d : DocNode}
    (hd : treeValue s depth node = .ok d) :
    ∃ name rule, Registry.firstClaim node.type s.rules = some (name, rule) ∧ rule.Standard ∧
      (∀ n, s.limit = some n → depth + 1 ≤ n) ∧
      (rule.form s.sources name node).result
        (node.children.map fun c => treeValue s (depth + 1) (.content c)) = .ok d := by
  rw [treeValue_form hstandard] at hd
  cases hfirst : Registry.firstClaim node.type s.rules with
  | none => rw [hfirst] at hd; cases hd
  | some found =>
    rw [hfirst] at hd
    have hrule := hstandard _ (List.mem_of_find?_eq_some hfirst)
    exact ⟨found.1, found.2, rfl, hrule, Setting.le_of_within_eq_ok hd, Setting.within_eq_ok hd⟩

namespace Form

def reached {α : Type} : Form → List α → List α
  | block _, children => children
  | mark _, children => children.take 1

theorem map_reached {α β : Type} (form : Form) (f : α → β) (children : List α) :
    (form.reached children).map f = form.reached (children.map f) := by
  cases form with
  | block make => rfl
  | mark m => exact List.map_take

theorem result_congr {form : Form} {cs : List Content} {f g : Content → Result}
    (hsame : ∀ c ∈ cs, ∀ d, f c = .ok d → g c = .ok d) {d : DocNode}
    (hd : form.result (cs.map f) = .ok d) : form.result (cs.map g) = .ok d := by
  cases form with
  | block make =>
    obtain ⟨ds, hds, -⟩ := Result.eq_of_map_mapM_id hd
    have hgf : cs.map g = cs.map f := by
      refine List.map_congr_left fun c hc => ?_
      have hmem : f c ∈ ds.map (Except.ok : DocNode → Result) := by
        rw [← hds]
        exact List.mem_map_of_mem hc
      obtain ⟨made, -, hmade⟩ := List.mem_map.mp hmem
      rw [← hmade]
      exact hsame c hc made hmade.symm
    rw [hgf]
    exact hd
  | mark m =>
    cases cs with
    | nil => exact hd
    | cons c rest =>
      rw [List.map_cons, result] at hd ⊢
      cases hc : f c with
      | error e => rw [hc] at hd; cases hd
      | ok made =>
        rw [hsame c List.mem_cons_self made hc]
        rw [hc] at hd
        exact hd

end Form

/-- A document does not depend on the limit or on the depth: another conversion of the same node
that may go at least as far down gives the same one. -/
theorem treeValue_of_room {t : Setting} (hstandard : s.Standard) (hrules : t.rules = s.rules)
    (hsources : t.sources = s.sources) {depth depth' : Int}
    (hroom : ∀ n, t.limit = some n → ∃ m, s.limit = some m ∧ m - depth ≤ n - depth')
    {node : Source.Node} {d : DocNode} (hd : treeValue s depth node = .ok d) :
    treeValue t depth' node = .ok d := by
  have hstandard' : t.Standard := by
    unfold Setting.Standard
    rw [hrules]
    exact hstandard
  induction node using Source.Node.induction generalizing depth depth' d with
  | step node ih =>
    obtain ⟨name, rule, hfirst, -, hreached, hresult⟩ := treeValue_ok hstandard hd
    have hlevel : ∀ n, t.limit = some n → depth' + 1 ≤ n := by
      intro n hn
      obtain ⟨m, hm, hle⟩ := hroom n hn
      have hdepth := hreached m hm
      omega
    have hbelow : ∀ n, t.limit = some n →
        ∃ m, s.limit = some m ∧ m - (depth + 1) ≤ n - (depth' + 1) := by
      intro n hn
      obtain ⟨m, hm, hle⟩ := hroom n hn
      exact ⟨m, hm, by omega⟩
    rw [treeValue_form hstandard', hrules, hsources, hfirst]
    dsimp only
    rw [Setting.within_of_le hlevel]
    exact Form.result_congr (fun c hc made hmade => ih c hc hbelow hmade) hresult

theorem Rule.reached_form {rule : Rule} (hrule : rule.Standard) {node : Source.Node}
    (hclaims : node.type ∈ rule.claims) (sources : Entries Definition) (name : String) :
    (rule.form sources name node).reached node.children =
      if rule.kind = .mark then node.children.take 1 else node.children := by
  cases hconvert : rule.convert with
  | none =>
    rw [form_of_none hconvert]
    split <;> rfl
  | some conversion =>
    obtain ⟨known, hdefault, hform⟩ := hrule.default hclaims hconvert
    replace hform := hform sources name
    revert hform
    generalize rule.form sources name node = form
    intro hform
    cases node with
    | root cs => cases hdefault; cases hform; rfl
    | content c =>
      cases c with
      | leaf l =>
        have hnil : form.reached ([] : List Content) = [] := by cases form <;> rfl
        rw [Source.Node.children, Content.children, hnil]
        split <;> rfl
      | parent p cs => cases p <;> cases hdefault <;> cases hform <;> rfl

end RichMarkdown
