import RichMarkdown.Proofs.Process.Script
import RichMarkdown.Proofs.Registry.Lookup
import RichMarkdown.Proofs.Source.Filter

/-! The values of conversions that change nothing in their process but the log: what a node becomes
is a function of the rules, the limit on the depth, the definitions and the depth. -/
namespace RichMarkdown

open Source (Content)

abbrev Result := Except ConvertError DocNode

theorem Result.mapM_id_eq_ok_iff {results : List Result} {ds : List DocNode} :
    results.mapM id = .ok ds ↔ results = ds.map .ok := by
  induction results generalizing ds with
  | nil => cases ds <;> simp [pure, Except.pure]
  | cons result rest ih =>
    rw [List.mapM_cons]
    cases result with
    | error e => cases ds <;> simp [bind, Except.bind]
    | ok d =>
      cases ds with
      | nil => cases rest.mapM id <;> simp [bind, Except.bind, pure, Except.pure]
      | cons d' ds =>
        rw [List.map_cons, List.cons.injEq, ← ih]
        cases rest.mapM id <;> simp [bind, Except.bind, pure, Except.pure]

theorem Result.eq_of_map_mapM_id {results : List Result} {make : List DocNode → DocNode}
    {d : DocNode} (h : (results.mapM id).map make = .ok d) :
    ∃ ds : List DocNode, results = ds.map .ok ∧ d = make ds := by
  cases hds : results.mapM id with
  | error e => rw [hds] at h; cases h
  | ok ds =>
    rw [hds] at h
    cases h
    exact ⟨ds, mapM_id_eq_ok_iff.mp hds, rfl⟩

theorem Result.error_mem_of_mapM_id {results : List Result} {e : ConvertError}
    (h : results.mapM id = .error e) : .error e ∈ results := by
  induction results with
  | nil => cases h
  | cons result rest ih =>
    rw [List.mapM_cons] at h
    cases result with
    | error e' => cases h; exact List.mem_cons_self
    | ok d =>
      cases hrest : rest.mapM id with
      | error e' =>
        rw [hrest] at h
        cases h
        exact List.mem_cons_of_mem _ (ih hrest)
      | ok ds => rw [hrest] at h; cases h

theorem Result.error_mem_of_map_mapM_id {results : List Result} {make : List DocNode → DocNode}
    {e : ConvertError} (h : (results.mapM id).map make = .error e) : .error e ∈ results := by
  cases hds : results.mapM id with
  | error e' =>
    rw [hds] at h
    cases h
    exact error_mem_of_mapM_id hds
  | ok ds => rw [hds] at h; cases h

/-- What conversions see of a process, its depth apart. -/
structure Setting where
  rules : List (String × Rule)
  limit : Option Int
  sources : Entries Source.Definition

def Setting.exceeded (s : Setting) (level : Int) : Option Int :=
  s.limit.filter fun limit => limit < level

def Setting.within (s : Setting) (level : Int) (result : Result) : Result :=
  match s.exceeded level with
  | some limit => .error (.tooDeep limit)
  | none => result

theorem Setting.within_eq_ok {s : Setting} {level : Int} {result : Result} {d : DocNode}
    (h : s.within level result = .ok d) : result = .ok d := by
  unfold within at h
  split at h
  · cases h
  · exact h

theorem Setting.within_eq_error {s : Setting} {level : Int} {result : Result} {e : ConvertError}
    (h : s.within level result = .error e) :
    result = .error e ∨ ∃ limit, s.limit = some limit ∧ e = .tooDeep limit := by
  unfold within at h
  split at h
  · next limit hlimit =>
    cases h
    exact .inr ⟨limit, (Option.filter_eq_some_iff.mp hlimit).1, rfl⟩
  · exact .inl h

theorem Setting.within_of_le {s : Setting} {level : Int}
    (h : ∀ limit, s.limit = some limit → level ≤ limit) (result : Result) :
    s.within level result = result := by
  have hnone : s.exceeded level = none := by
    unfold exceeded
    cases hlimit : s.limit with
    | none => rfl
    | some limit => simpa using h limit hlimit
  rw [within, hnone]

/-- A script whose only effects are messages, and that starts no conversions but those of the
children. -/
inductive Script.Plain : Script → Prop
  | done (d : DocNode) : Plain (.done d)
  | fail (e : ConvertError) : Plain (.fail e)
  | readDepth {next : Int → Script} : (∀ n, (next n).Plain) → Plain (.readDepth next)
  | readSources {next : Entries Source.Definition → Script} :
      (∀ sources, (next sources).Plain) → Plain (.readSources next)
  | note {message : String} {next : Script} : next.Plain → Plain (.note message next)
  | child {n : Nat} {next : Result → Script} :
      (∀ result, (next result).Plain) → Plain (.child n next)

def Setting.Plain (s : Setting) : Prop :=
  ∀ p ∈ s.rules, ∀ conversion, p.2.convert = some conversion → ∀ node, (conversion node).Plain

variable (s : Setting)

def Script.value (depth : Int) (children : List Result) : Script → Result
  | done d => .ok d
  | fail e => .error e
  | readDepth next => value depth children (next depth)
  | readSources next => value depth children (next s.sources)
  | note _ next => value depth children next
  | child n next => value depth children (next (children[n]?.getD (.error .noSuchChild)))
  | dropRule .. | convert .. | transform .. => .error .endless

def ruleValue (depth : Int) (name : String) (rule : Rule) (node : Source.Node)
    (children : List Result) : Result :=
  match rule.convert, rule.kind, children with
  | some conversion, _, _ => (conversion node).value s depth children
  | none, .mark, [] => .ok ((DocNode.ofText "").applyMark { type := name })
  | none, .mark, first :: _ => first.map (·.applyMark { type := name })
  | none, _, _ => (children.mapM id).map fun content =>
    { type := name, content := if content.isEmpty then none else some content }

def nodeValue (depth : Int) (node : Source.Node) (children : List Result) : Result :=
  match Registry.firstClaim node.type s.rules with
  | none => .error (.unmapped node.type node.dump)
  | some (name, rule) => s.within (depth + 1) (ruleValue s (depth + 1) name rule node children)

mutual

def contentValue (depth : Int) : Content → Result
  | .leaf l => nodeValue s depth (.content (.leaf l)) []
  | .parent p cs => nodeValue s depth (.content (.parent p cs)) (contentValues (depth + 1) cs)

def contentValues (depth : Int) : List Content → List Result
  | [] => []
  | c :: rest => contentValue depth c :: contentValues depth rest

end

theorem contentValues_eq_map (depth : Int) (cs : List Content) :
    contentValues s depth cs = cs.map (contentValue s depth) := by
  induction cs with
  | nil => rfl
  | cons c rest ih => rw [contentValues, ih, List.map_cons]

def treeValue (depth : Int) : Source.Node → Result
  | .root cs => nodeValue s depth (.root cs) (contentValues s (depth + 1) cs)
  | .content c => contentValue s depth c

structure Process.Fits (depth : Int) (p : Process) : Prop where
  coherent : p.registry.Coherent
  rules : p.registry.rules = s.rules
  limit : p.options.maxDepth = s.limit
  sources : p.sources = s.sources
  depth : p.depth = depth

/-- A step with a value that keeps the setting and the depth. -/
def ConvertM.Evaluates {α : Type} (depth : Int) (x : ConvertM α) (v : Except ConvertError α) :
    Prop :=
  ∀ p, p.Fits s depth → (x p).1 = v ∧ (x p).2.Fits s depth

variable {s} {depth : Int} {further : Further}

namespace Process.Fits

theorem entered {p : Process} (h : p.Fits s depth) (type : String) :
    (p.entered type).Fits s (depth + 1) where
  coherent := h.coherent.find type
  rules := (Registry.find_rules type p.registry).trans h.rules
  limit := h.limit
  sources := h.sources
  depth := congrArg (· + 1) h.depth

theorem left {p : Process} (h : p.Fits s (depth + 1)) : p.left.Fits s depth where
  coherent := h.coherent
  rules := h.rules
  limit := h.limit
  sources := h.sources
  depth := by rw [Process.left, h.depth, Int.add_sub_cancel]

theorem logged {p : Process} (h : p.Fits s depth) (log : List String) :
    { p with log := log }.Fits s depth :=
  ⟨h.coherent, h.rules, h.limit, h.sources, h.depth⟩

theorem exceeded {p : Process} (h : p.Fits s depth) : p.exceeded = s.exceeded depth := by
  rw [Process.exceeded, h.limit, h.depth, Setting.exceeded]

theorem find {p : Process} (h : p.Fits s depth) (type : String) :
    (p.registry.find type).1 = .ok (Registry.firstClaim type s.rules) := by
  rw [h.coherent.find_eq, h.rules]

end Process.Fits

namespace ConvertM.Evaluates

variable {α β : Type}

theorem pure (a : α) : Evaluates s depth (pure a) (.ok a) :=
  fun _ h => ⟨rfl, h⟩

theorem bind {x : ConvertM α} {v : Except ConvertError α} {f : α → ConvertM β}
    {g : α → Except ConvertError β} (hx : Evaluates s depth x v)
    (hf : ∀ a, Evaluates s depth (f a) (g a)) : Evaluates s depth (x >>= f) (v >>= g) := by
  intro p hp
  obtain ⟨hresult, hfits⟩ := hx p hp
  rw [ConvertM.run_bind]
  revert hresult hfits
  rcases x p with ⟨result, q⟩
  rintro rfl hfits
  cases result with
  | error e => exact ⟨rfl, hfits⟩
  | ok a => exact hf a q hfits

theorem map {x : ConvertM α} {v : Except ConvertError α} (hx : Evaluates s depth x v)
    (f : α → β) : Evaluates s depth (do return f (← x)) (v.map f) := by
  have hbind := hx.bind fun a => .pure (f a)
  cases v <;> exact hbind

theorem outcome {x : ConvertM α} {v : Except ConvertError α} (hx : Evaluates s depth x v) :
    Evaluates s depth x.outcome (.ok v) :=
  fun p hp => ⟨congrArg Except.ok (hx p hp).1, (hx p hp).2⟩

theorem log (message : String) : Evaluates s depth (ConvertM.log message) (.ok ()) :=
  fun _ hp => ⟨rfl, hp.logged _⟩

theorem sequence {children : List (ConvertM DocNode × Result)}
    (h : ∀ t ∈ children, Evaluates s depth t.1 t.2) :
    Evaluates s depth (ConvertM.sequence (children.map Prod.fst))
      ((children.map Prod.snd).mapM id) := by
  induction children with
  | nil => exact .pure []
  | cons t rest ih =>
    rw [List.map_cons, List.map_cons, ConvertM.sequence, List.mapM_cons]
    have hrest := ih fun t ht => h t (by simp [ht])
    exact (h t (by simp)).bind fun d => hrest.bind fun ds => .pure (d :: ds)

end ConvertM.Evaluates

open ConvertM (Evaluates)

theorem Script.value_evaluates {script : Script} (hplain : script.Plain)
    {children : List (ConvertM DocNode × Result)}
    (hchildren : ∀ t ∈ children, Evaluates s depth t.1 t.2) :
    Evaluates s depth (script.run further (children.map Prod.fst))
      (script.value s depth (children.map Prod.snd)) := by
  induction hplain with
  | done d => exact .pure d
  | fail e => exact fun _ hp => ⟨rfl, hp⟩
  | @readDepth next _ ih =>
    intro p hp
    change ((next p.depth).run _ _ p).1 = _ ∧ ((next p.depth).run _ _ p).2.Fits s depth
    rw [hp.depth]
    exact ih depth p hp
  | @readSources next _ ih =>
    intro p hp
    change ((next p.sources).run _ _ p).1 = _ ∧ ((next p.sources).run _ _ p).2.Fits s depth
    rw [hp.sources]
    exact ih s.sources p hp
  | note _ ih => exact (Evaluates.log _).bind fun _ => ih
  | @child n next _ ih =>
    unfold Script.run Script.value
    rw [List.getElem?_map, List.getElem?_map]
    cases hn : children[n]? with
    | none => exact ih _
    | some t =>
      have hchild := (hchildren t (List.mem_of_getElem? hn)).outcome
      exact hchild.bind ih

theorem ruleValue_evaluates {name : String} {rule : Rule} {node : Source.Node}
    (hplain : ∀ conversion, rule.convert = some conversion → (conversion node).Plain)
    {children : List (ConvertM DocNode × Result)}
    (hchildren : ∀ t ∈ children, Evaluates s depth t.1 t.2) :
    Evaluates s depth (applyRule further name rule node (children.map Prod.fst))
      (ruleValue s depth name rule node (children.map Prod.snd)) := by
  have hall := (Evaluates.sequence hchildren).map fun content : List DocNode =>
    ({ type := name, content := if content.isEmpty then none else some content } : DocNode)
  unfold applyRule ruleValue
  cases hconvert : rule.convert with
  | some conversion => exact Script.value_evaluates (hplain conversion hconvert) hchildren
  | none =>
    cases rule.kind with
    | node => exact hall
    | other kind => exact hall
    | mark =>
      cases children with
      | nil => exact (Evaluates.log _).bind fun _ => .pure _
      | cons first rest => exact (hchildren first (by simp)).map _

theorem nodeValue_evaluates (hplain : s.Plain) (node : Source.Node)
    {children : List (ConvertM DocNode × Result)}
    (hchildren : ∀ t ∈ children, Evaluates s (depth + 1) t.1 t.2) :
    Evaluates s depth (convertNode further node (children.map Prod.fst))
      (nodeValue s depth node (children.map Prod.snd)) := by
  intro p hp
  have hentered := hp.entered node.type
  rw [convertNode_run, hp.find, hentered.exceeded]
  unfold nodeValue
  cases hfirst : Registry.firstClaim node.type s.rules with
  | none => exact ⟨rfl, hentered.left⟩
  | some found =>
    obtain ⟨name, rule⟩ := found
    dsimp only [Setting.within]
    cases s.exceeded (depth + 1) with
    | some limit => exact ⟨rfl, hentered.left⟩
    | none =>
      have hmem := List.mem_of_find?_eq_some hfirst
      have hrule : Evaluates s (depth + 1)
          (applyRule further name rule node (children.map Prod.fst)) _ :=
        ruleValue_evaluates (fun conversion h => hplain _ hmem conversion h node) hchildren
      exact ⟨(hrule _ hentered).1, (hrule _ hentered).2.left⟩

theorem parentValue_evaluates (hplain : s.Plain) (node : Source.Node) {cs : List Content}
    (hcs : ∀ c ∈ cs, Evaluates s (depth + 1) (resolve further c) (contentValue s (depth + 1) c)) :
    Evaluates s depth (convertNode further node (resolveAll further cs))
      (nodeValue s depth node (contentValues s (depth + 1) cs)) := by
  let children := cs.map fun c => (resolve further c, contentValue s (depth + 1) c)
  have hchildren : ∀ t ∈ children, Evaluates s (depth + 1) t.1 t.2 := by
    intro t ht
    obtain ⟨c, hc, rfl⟩ := List.mem_map.mp ht
    exact hcs c hc
  have hsteps : resolveAll further cs = children.map Prod.fst := by
    rw [resolveAll_eq_map, List.map_map]
    rfl
  have hvalues : contentValues s (depth + 1) cs = children.map Prod.snd := by
    rw [contentValues_eq_map, List.map_map]
    rfl
  rw [hsteps, hvalues]
  exact nodeValue_evaluates hplain node hchildren

theorem contentValue_evaluates (hplain : s.Plain) (c : Content) (depth : Int) :
    Evaluates s depth (resolve further c) (contentValue s depth c) := by
  induction c generalizing depth with
  | leaf l =>
    have hnone : ∀ c ∈ ([] : List Content),
        Evaluates s (depth + 1) (resolve further c) (contentValue s (depth + 1) c) := by simp
    exact parentValue_evaluates hplain (.content (.leaf l)) hnone
  | parent p cs ih =>
    exact parentValue_evaluates hplain (.content (.parent p cs)) fun c hc => ih c hc (depth + 1)

theorem treeValue_evaluates (hplain : s.Plain) (node : Source.Node) (depth : Int) :
    Evaluates s depth (convert node) (treeValue s depth node) := by
  cases node with
  | content c => exact contentValue_evaluates hplain c depth
  | root cs =>
    exact parentValue_evaluates hplain (.root cs) fun c _ =>
      contentValue_evaluates hplain c (depth + 1)

def Process.current (p : Process) : Setting :=
  ⟨p.registry.rules, p.options.maxDepth, p.sources⟩

theorem convert_eq_value {p : Process} (hcoherent : p.registry.Coherent)
    (hplain : p.current.Plain) (node : Source.Node) :
    (convert node p).1 = treeValue p.current p.depth node :=
  (treeValue_evaluates hplain node p.depth p ⟨hcoherent, rfl, rfl, rfl, rfl⟩).1

def Process.setting (p : Process) (tree : Source.Node) : Setting :=
  ⟨p.registry.rules, p.options.maxDepth, tree.references⟩

/-- With plain rules, a whole conversion gives the value of what is left of the tree. -/
theorem transform_eq_value {p : Process} {tree : Source.Node} (hcoherent : p.registry.Coherent)
    (hplain : (p.setting tree).Plain) :
    (transform tree p).1 = treeValue (p.setting tree) 0 (p.filtered tree) :=
  convert_eq_value (p := p.prepared tree) hcoherent hplain (p.filtered tree)

theorem transform_sources {p : Process} {tree : Source.Node} (hcoherent : p.registry.Coherent)
    (hplain : (p.setting tree).Plain) : (transform tree p).2.sources = tree.references :=
  (treeValue_evaluates hplain (p.filtered tree) 0 (p.prepared tree)
    ⟨hcoherent, rfl, rfl, rfl, rfl⟩).2.sources

end RichMarkdown
