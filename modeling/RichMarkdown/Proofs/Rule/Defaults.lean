import RichMarkdown.Proofs.Process.Value

/-! What the default rules make of each kind of node: a document node for a leaf, a node around the
results of all children or a mark on the result of the first for a parent. -/
namespace RichMarkdown

open Source (Content Leaf Parent Definition)

namespace Script

variable {s : Setting} {depth : Int}

theorem Plain.field {α : Type} {node : Source.Node} {name : String} {value : Option α}
    {next : α → Script} (h : ∀ a, (next a).Plain) : (field node name value next).Plain := by
  cases value with
  | none => exact .fail _
  | some a => exact h a

theorem Plain.bindResult {next : DocNode → Script} (h : ∀ d, (next d).Plain) (result : Result) :
    (bindResult next result).Plain := by
  cases result with
  | error e => exact .fail e
  | ok d => exact h d

theorem Plain.children {node : Source.Node} {next : List DocNode → Script}
    (h : ∀ ds, (next ds).Plain) : (children node next).Plain := by
  have heach : ∀ n count (next : List DocNode → Script), (∀ ds, (next ds).Plain) →
      (eachChild n count next).Plain := by
    intro n count
    induction count generalizing n with
    | zero => exact fun _ hnext => hnext []
    | succ count ih =>
      intro next hnext
      exact .child (.bindResult fun d => ih (n + 1) _ fun ds => hnext (d :: ds))
  exact heach 0 node.children.length next h

theorem eachChild_value (before rest : List Result) (next : List DocNode → Script) :
    (eachChild before.length rest.length next).value s depth (before ++ rest) =
      rest.mapM id >>= fun ds => (next ds).value s depth (before ++ rest) := by
  -- The results before the place are part of the state of the loop, so they vary with it.
  induction rest generalizing before next with
  | nil => rfl
  | cons result rest ih =>
    have hplace : (before ++ result :: rest)[before.length]? = some result := by simp
    rw [List.length_cons, eachChild, value, hplace, Option.getD_some, List.mapM_cons]
    cases result with
    | error e => rfl
    | ok d =>
      have hrest := ih (before ++ [.ok d]) fun ds => next (d :: ds)
      rw [List.length_append, List.append_assoc] at hrest
      rw [bindResult]
      refine hrest.trans ?_
      cases rest.mapM id <;> rfl

theorem children_value {node : Source.Node} {results : List Result}
    (h : results.length = node.children.length) (next : List DocNode → Script) :
    (children node next).value s depth results =
      results.mapM id >>= fun ds => (next ds).value s depth results := by
  rw [children, ← h]
  exact eachChild_value [] results next

theorem children_done_value {node : Source.Node} {results : List Result}
    (h : results.length = node.children.length) (make : List DocNode → DocNode) :
    (children node fun content => done (make content)).value s depth results =
      (results.mapM id).map make := by
  rw [children_value h]
  cases results.mapM id <;> rfl

end Script

variable {s : Setting}

open Script in
theorem Setting.plain_default (hrules : s.rules = Registry.defaultRules) : s.Plain := by
  simp only [Setting.Plain, hrules, Registry.defaultRules, Registry.nodeRule, Registry.markRule,
    List.forall_mem_cons, reduceCtorEq, Option.some.injEq, forall_eq', false_implies, implies_true,
    true_and, and_true, List.not_mem_nil]
  refine ⟨fun node => .field fun depth => .children fun content => .done _,
    fun node => .field fun lang => .field fun value => .done _,
    fun node => .field fun ordered => .children fun content => .done _,
    fun node => .field fun value => .done _,
    fun node => .field fun title => .field fun alt => .field fun url => .done _,
    fun node => .field fun identifier => .readSources fun sources => ?_,
    fun node => .field fun url => .field fun cs => ?_,
    fun node => .field fun value => .done _⟩
  · cases sources.get? identifier with
    | some d => exact .field fun alt => .done _
    | none => exact .note (.field fun alt => .done _)
  · dsimp only
    split
    · exact .done _
    · exact .child (.bindResult fun d => .done _)

/-- What becomes of the parents of a kind. -/
inductive Form where
  | block (make : List DocNode → DocNode)
  | mark (m : Mark)

def Form.result : Form → List Result → Result
  | block make, children => (children.mapM id).map make
  | mark m, [] => .ok ((DocNode.ofText "").applyMark m)
  | mark m, first :: _ => first.map (·.applyMark m)

namespace DocNode

def around (type : String) (content : List DocNode) : DocNode :=
  { type, content := if content.isEmpty then none else some content }

theorem content_around (type : String) (ds : List DocNode) :
    (around type ds).content.getD [] = ds := by
  cases ds <;> rfl

def ofImage (url : String) (title alt : Option String) : DocNode :=
  { type := "image",
    attrs := some [("title", .ofText? title), ("alt", .ofText? alt), ("src", .str url)] }

def ofAlt (alt : Option String) : DocNode :=
  { type := "image", attrs := some [("title", .null), ("alt", .ofText? alt)] }

end DocNode

def Source.Leaf.document? (sources : Entries Definition) : Leaf → Option DocNode
  | .text value => some (.ofText value)
  | .inlineCode value => some ((DocNode.ofText value).applyMark { type := "code" })
  | .hardBreak => some (.around "hardBreak" [])
  | .thematicBreak => some (.around "horizontalRule" [])
  | .code lang _ value => some
    { type := "heading", attrs := some [("language", .ofText? lang)],
      content := some [.ofText value] }
  | .image url title alt => some (.ofImage url title alt)
  | .imageReference identifier _ alt => match sources.get? identifier with
    | some d => some (.ofImage d.url d.title alt)
    | none => some (.ofAlt alt)
  | .definition _ => none
  | .footnoteReference .. => none

def Source.Parent.form? : Parent → Option Form
  | .paragraph => some (.block (.around "paragraph"))
  | .heading depth => some (.block fun content =>
    { type := "heading", attrs := some [("level", .int depth.val)], content := some content })
  | .blockquote => some (.block (.around "blockquote"))
  | .list ordered _ => some (.block fun content =>
    { type := if ordered then "orderedList" else "bulletList", content := some content })
  | .listItem => some (.block (.around "listItem"))
  | .table => some (.block (.around "table"))
  | .tableRow => some (.block (.around "tableRow"))
  | .tableCell => some (.block (.around "tableCell"))
  | .emphasis => some (.mark { type := "italic" })
  | .strong => some (.mark { type := "strong" })
  | .delete => some (.mark { type := "strike" })
  | .link url _ => some (.mark { type := "link", attrs := some [("href", .str url)] })
  | .linkReference .. => none
  | .footnoteDefinition .. => none

theorem contentValue_leaf (hrules : s.rules = Registry.defaultRules) (depth : Int) (l : Leaf) :
    contentValue s depth (.leaf l) = match l.document? s.sources with
      | some d => s.within (depth + 1) (.ok d)
      | none => .error (.unmapped l.type (Source.Node.content (.leaf l)).dump) := by
  rw [contentValue, nodeValue, hrules]
  cases l with
  | text value => rfl
  | inlineCode value => rfl
  | hardBreak => rfl
  | thematicBreak => rfl
  | code lang info value => rfl
  | image url title alt => rfl
  | imageReference identifier label alt =>
    change s.within (depth + 1) ((Conversion.imageReference _).value s (depth + 1) []) = _
    simp only [Conversion.imageReference, Source.Node.identifier?, Script.field, Script.value,
      Leaf.document?]
    cases s.sources.get? identifier <;> rfl
  | definition d => rfl
  | footnoteReference identifier label => rfl

theorem nodeValue_parent (hrules : s.rules = Registry.defaultRules) (depth : Int) (p : Parent)
    {cs : List Content} {results : List Result}
    (hlength : results.length = (Source.Node.content (.parent p cs)).children.length) :
    nodeValue s depth (.content (.parent p cs)) results = match p.form? with
      | some form => s.within (depth + 1) (form.result results)
      | none => .error (.unmapped p.type (Source.Node.content (.parent p cs)).dump) := by
  rw [nodeValue, hrules]
  cases p with
  | paragraph => rfl
  | heading level =>
    exact congrArg (s.within (depth + 1)) (Script.children_done_value hlength _)
  | blockquote => rfl
  | list ordered start =>
    exact congrArg (s.within (depth + 1)) (Script.children_done_value hlength _)
  | listItem => rfl
  | table => rfl
  | tableRow => rfl
  | tableCell => rfl
  | emphasis => cases results <;> rfl
  | strong => cases results <;> rfl
  | delete => cases results <;> rfl
  | link url title =>
    cases cs with
    | nil => cases results with
      | nil => rfl
      | cons result rest => cases hlength
    | cons c others => cases results with
      | nil => cases hlength
      | cons result rest => cases result <;> rfl
  | linkReference identifier label => rfl
  | footnoteDefinition identifier label => rfl

theorem contentValue_parent (hrules : s.rules = Registry.defaultRules) (depth : Int) (p : Parent)
    (cs : List Content) : contentValue s depth (.parent p cs) = match p.form? with
      | some form => s.within (depth + 1) (form.result (cs.map (contentValue s (depth + 1))))
      | none => .error (.unmapped p.type (Source.Node.content (.parent p cs)).dump) := by
  rw [contentValue, contentValues_eq_map]
  exact nodeValue_parent hrules depth p (List.length_map _)

theorem treeValue_root (hrules : s.rules = Registry.defaultRules) (depth : Int)
    (cs : List Content) : treeValue s depth (.root cs) = s.within (depth + 1)
      (((cs.map (contentValue s (depth + 1))).mapM id).map (.around "doc")) := by
  rw [treeValue, contentValues_eq_map, nodeValue, hrules]
  rfl

theorem document?_eq_none_iff (sources : Entries Definition) (l : Leaf) :
    l.document? sources = none ↔ l.type ∈ Options.defaultIgnores := by
  cases l with
  | imageReference identifier label alt =>
    simp only [Leaf.document?, Leaf.type, Options.defaultIgnores]
    cases sources.get? identifier <;> simp
  | _ => simp [Leaf.document?, Leaf.type, Options.defaultIgnores]

theorem form?_eq_none_iff (p : Parent) : p.form? = none ↔ p.type ∈ Options.defaultIgnores := by
  cases p <;> simp [Parent.form?, Parent.type, Options.defaultIgnores]

theorem content_of_form? {p : Parent} {make : List DocNode → DocNode}
    (h : p.form? = some (.block make)) (ds : List DocNode) : (make ds).content.getD [] = ds := by
  cases p with
  | heading level => cases h; rfl
  | list ordered start => cases h; rfl
  | _ => cases h <;> exact DocNode.content_around _ ds

/-- A registry of the default rules, whether its index is built yet or not. -/
structure Registry.IsDefault (r : Registry) : Prop where
  coherent : r.Coherent
  rules : r.rules = defaultRules

theorem Registry.isDefault_default : Registry.default.IsDefault :=
  ⟨coherent_default, rfl⟩

end RichMarkdown
