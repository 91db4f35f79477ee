import RichMarkdown.Document.Payload
import RichMarkdown.Document.Reader
import RichMarkdown.Proofs.Json.Same

/-! Documents survive being written as a payload and read again, but for the null attributes of
their nodes, which a payload leaves out. So it says everything else about a document. -/
namespace RichMarkdown

namespace Check

variable {α β : Type}

theorem nullable_map {check : Json → Check β} {f : α → β} (write : α → Json)
    (hnull : ∀ a, write a ≠ .null) {name : String} {fields : List (String × Json)}
    {value : Option α} (hfield : Entries.get? name fields = value.map write)
    (hcheck : ∀ a, check (write a) = .ok (f a)) :
    nullable name check fields = .ok (value.map f) := by
  unfold nullable withDefault
  rw [hfield]
  cases value with
  | none => rfl
  | some a =>
    have hread : optional check (write a) = (check (write a)).map some := by
      cases hwrite : write a with
      | null => exact absurd hwrite (hnull a)
      | _ => rfl
    simp only [Option.map_some, hread, hcheck, Except.map, under]

theorem items_map {check : Json → Check α} {write : α → Json}
    (hcheck : ∀ a, check (write a) = .ok a) (values : List α) (n : Nat) :
    items check n (values.map write) = .ok values := by
  induction values generalizing n with
  | nil => rfl
  | cons a rest ih => simp only [List.map_cons, items, hcheck, ih, under, map2]

end Check

theorem optionalField_congr {α β : Type} (name : String) {f : α → Json} {g : β → Json}
    {value : Option α} {value' : Option β} (h : value.map f = value'.map g) :
    optionalField name f value = optionalField name g value' := by
  cases value <;> cases value' <;> simp_all [optionalField]

theorem get?_optionalField_append {α : Type} (key name : String) (f : α → Json) (value : Option α)
    (rest : List (String × Json)) :
    Entries.get? key (optionalField name f value ++ rest) =
      if name = key then (value.map f).or (Entries.get? key rest) else Entries.get? key rest := by
  cases value with
  | none => simp [optionalField]
  | some a => simp [optionalField, Entries.get?]

theorem Mark.get?_fields (m : Mark) (key : String) :
    Entries.get? key (("type", .str m.type) :: optionalField "attrs" .obj m.attrs) =
      if "type" = key then some (.str m.type)
      else if "attrs" = key then m.attrs.map .obj
      else none := by
  have hattrs := get?_optionalField_append key "attrs" Json.obj m.attrs []
  rw [List.append_nil] at hattrs
  rw [Entries.get?, hattrs]
  simp [Entries.get?]

theorem checkMark_payload (m : Mark) : checkMark m.payload = .ok m := by
  have hattrs : Check.nullable "attrs" Check.dictionary
      (("type", .str m.type) :: optionalField "attrs" .obj m.attrs) = .ok (m.attrs.map id) :=
    Check.nullable_map .obj (by simp) (by simp [m.get?_fields]) fun _ => rfl
  unfold checkMark Mark.payload
  simp [Check.required, m.get?_fields, hattrs, Check.text, Check.under, Check.map2]

namespace DocNode

@[elab_as_elim]
theorem induction {motive : DocNode → Prop}
    (step : ∀ d : DocNode, (∀ c ∈ d.content.getD [], motive c) → motive d) (d : DocNode) :
    motive d :=
  match d with
  | ⟨_, _, none, _, _⟩ => step _ (by simp)
  | ⟨_, _, some ds, _, _⟩ => step _ fun c hc =>
    have : c ∈ ds := hc
    induction step c

mutual

/-- The document without the null attributes of its nodes. Attributes of marks stay as they are,
and so does null within an attribute. -/
def stripped : DocNode → DocNode
  | ⟨type, attrs, content, marks, text⟩ =>
    let content := match content with
      | some ds => some (strippedAll ds)
      | none => none
    { type, attrs := attrs.map presentAttrs, content, marks, text }

def strippedAll : List DocNode → List DocNode
  | [] => []
  | d :: rest => d.stripped :: strippedAll rest

end

theorem strippedAll_eq_map (ds : List DocNode) : strippedAll ds = ds.map stripped := by
  induction ds with
  | nil => rfl
  | cons d rest ih => rw [strippedAll, ih, List.map_cons]

theorem stripped_eq (d : DocNode) :
    d.stripped = { d with
      attrs := d.attrs.map presentAttrs, content := d.content.map (List.map stripped) } := by
  obtain ⟨type, attrs, content, marks, text⟩ := d
  cases content with
  | none => rfl
  | some ds => rw [stripped, strippedAll_eq_map, Option.map_some]

theorem payloads_eq_map (ds : List DocNode) : payloads ds = ds.map payload := by
  induction ds with
  | nil => rfl
  | cons d rest ih => rw [payloads, ih, List.map_cons]

def fields (d : DocNode) : List (String × Json) :=
  ("type", .str d.type) ::
    (optionalField "attrs" (fun as => .obj (presentAttrs as)) d.attrs ++
      (optionalField "content" (fun ds => .arr (ds.map payload)) d.content ++
        (optionalField "marks" (fun ms => .arr (ms.map Mark.payload)) d.marks ++
          (optionalField "text" .str d.text ++ []))))

theorem payload_eq (d : DocNode) : d.payload = .obj d.fields := by
  obtain ⟨type, attrs, content, marks, text⟩ := d
  cases content with
  | none => simp [payload, fields, optionalField]
  | some ds => simp [payload, fields, optionalField, payloads_eq_map]

theorem get?_fields (d : DocNode) (key : String) : Entries.get? key d.fields =
    if "type" = key then some (.str d.type)
    else if "attrs" = key then d.attrs.map fun as => .obj (presentAttrs as)
    else if "content" = key then d.content.map fun ds => .arr (ds.map payload)
    else if "marks" = key then d.marks.map fun ms => .arr (ms.map Mark.payload)
    else if "text" = key then d.text.map .str
    else none := by
  rw [fields, Entries.get?]
  simp only [get?_optionalField_append]
  by_cases hattrs : "attrs" = key
  · subst hattrs
    simp [Entries.get?]
  by_cases hcontent : "content" = key
  · subst hcontent
    simp [Entries.get?]
  by_cases hmarks : "marks" = key
  · subst hmarks
    simp [Entries.get?]
  simp [hattrs, hcontent, hmarks, Entries.get?]

theorem checkContent_eq (fields : List (String × Json)) :
    checkContent fields = match Entries.get? "content" fields with
      | some j => .under (.key "content") (checkList j)
      | none => .ok none := by
  induction fields with
  | nil => rfl
  | cons field rest ih =>
    obtain ⟨name, j⟩ := field
    rw [checkContent, Entries.get?]
    split
    · next hname => rw [hname]
    · exact ih

theorem checkItems_payload {ds : List DocNode} (hds : ∀ d ∈ ds, check d.payload = .ok d.stripped)
    (n : Nat) : checkItems n (ds.map payload) = .ok (ds.map stripped) := by
  induction ds generalizing n with
  | nil => rfl
  | cons d rest ih =>
    have hrest := ih (fun c hc => hds c (List.mem_cons_of_mem d hc)) (n + 1)
    rw [List.map_cons, checkItems, hds d List.mem_cons_self, hrest]
    rfl

theorem checkContent_fields {d : DocNode}
    (hbelow : ∀ c ∈ d.content.getD [], check c.payload = .ok c.stripped) :
    checkContent d.fields = .ok (d.content.map (List.map stripped)) := by
  rw [checkContent_eq, get?_fields]
  cases hcontent : d.content with
  | none => rfl
  | some ds =>
    rw [hcontent, Option.getD_some] at hbelow
    simp [checkList, checkItems_payload hbelow, Check.under, Except.map]

theorem check_payload (d : DocNode) : check d.payload = .ok d.stripped := by
  induction d using DocNode.induction with
  | step d ih =>
    have htype : Check.required "type" Check.text d.fields = .ok d.type := by
      simp [Check.required, get?_fields, Check.text, Check.under]
    have hattrs : Check.nullable "attrs" Check.dictionary d.fields =
        .ok (d.attrs.map presentAttrs) :=
      Check.nullable_map (fun as => .obj (presentAttrs as)) (by simp) (by simp [get?_fields])
        fun _ => rfl
    have hlist : ∀ ms : List Mark,
        Check.list checkMark (.arr (ms.map Mark.payload)) = .ok (id ms) :=
      fun ms => Check.items_map checkMark_payload ms 0
    have hmarks : Check.nullable "marks" (Check.list checkMark) d.fields =
        .ok (d.marks.map id) :=
      Check.nullable_map _ (by simp) (by simp [get?_fields]) hlist
    have htext : Check.nullable "text" Check.text d.fields = .ok (d.text.map id) :=
      Check.nullable_map .str (by simp) (by simp [get?_fields]) fun _ => rfl
    rw [Option.map_id_fun, id_eq] at hmarks htext
    rw [payload_eq, check, htype, hattrs, checkContent_fields ih, hmarks, htext, stripped_eq]
    rfl

theorem payload_stripped (d : DocNode) : d.stripped.payload = d.payload := by
  induction d using DocNode.induction with
  | step d ih =>
    have hattrs : (d.attrs.map presentAttrs).map (fun as => Json.obj (presentAttrs as)) =
        d.attrs.map fun as => Json.obj (presentAttrs as) := by
      simp [presentAttrs, Function.comp_def]
    have hcontent : (d.content.map (List.map stripped)).map (fun ds => Json.arr (ds.map payload)) =
        d.content.map fun ds => Json.arr (ds.map payload) := by
      cases hds : d.content with
      | none => rfl
      | some ds =>
        rw [hds, Option.getD_some] at ih
        simpa using ih
    rw [payload_eq, payload_eq, stripped_eq, fields, fields]
    dsimp only
    rw [optionalField_congr "attrs" hattrs, optionalField_congr "content" hcontent]

theorem payload_eq_payload_iff (d e : DocNode) :
    d.payload = e.payload ↔ d.stripped = e.stripped := by
  constructor
  · intro h
    have hread : check d.payload = check e.payload := congrArg check h
    rw [check_payload, check_payload] at hread
    exact Except.ok.inj hread
  · intro h
    rw [← payload_stripped d, h, payload_stripped]

end DocNode

def SameAttrs : Option (List (String × Json)) → Option (List (String × Json)) → Prop :=
  Option.Rel fun as bs => Json.Same (.obj as) (.obj bs)

structure Mark.Same (m n : Mark) : Prop where
  type : m.type = n.type
  attrs : SameAttrs m.attrs n.attrs

inductive DocNode.Same : DocNode → DocNode → Prop
  | intro {d e : DocNode} (type : d.type = e.type) (attrs : SameAttrs d.attrs e.attrs)
      (content : Option.Rel (List.Forall₂ Same) d.content e.content)
      (marks : Option.Rel (List.Forall₂ Mark.Same) d.marks e.marks) (text : d.text = e.text) :
      Same d e

theorem Mark.same_payload_iff (m n : Mark) : Json.Same m.payload n.payload ↔ Mark.Same m n := by
  rw [payload, payload, Json.same_obj_iff]
  simp only [get?_fields]
  constructor
  · intro h
    have htype := h "type"
    have hattrs := h "attrs"
    simp only [if_true, String.reduceEq, if_false, rel_map_iff] at htype hattrs
    rw [Option.rel_some_some, Json.same_str_iff] at htype
    exact ⟨htype, hattrs⟩
  · rintro ⟨htype, hattrs⟩ key
    repeat' apply rel_ite
    · rw [htype]
      exact .some (.refl _)
    · exact (rel_map_iff _ _ _ _).mpr hattrs
    · exact .none

namespace DocNode

theorem same_payload_iff_fields (d e : DocNode) : Json.Same d.payload e.payload ↔
    d.type = e.type ∧ SameAttrs (d.attrs.map presentAttrs) (e.attrs.map presentAttrs) ∧
      Option.Rel (fun ds es => List.Forall₂ Json.Same (ds.map payload) (es.map payload))
        d.content e.content ∧
      Option.Rel (List.Forall₂ Mark.Same) d.marks e.marks ∧ d.text = e.text := by
  have hmarks : Option.Rel (fun ms ns => Json.Same (.arr (ms.map Mark.payload))
      (.arr (ns.map Mark.payload))) d.marks e.marks ↔
        Option.Rel (List.Forall₂ Mark.Same) d.marks e.marks := by
    simp only [Json.same_arr_iff, List.forall₂_map_left_iff, List.forall₂_map_right_iff,
      Mark.same_payload_iff]
  have htext : Option.Rel (fun s t => Json.Same (.str s) (.str t)) d.text e.text ↔
      d.text = e.text := by
    simp only [Json.same_str_iff, rel_eq_iff]
  rw [payload_eq, payload_eq, Json.same_obj_iff]
  simp only [get?_fields]
  constructor
  · intro h
    have htype := h "type"
    have hattrs := h "attrs"
    have hcontent := h "content"
    have hms := h "marks"
    have hs := h "text"
    simp only [if_true, String.reduceEq, if_false, rel_map_iff] at htype hattrs hcontent hms hs
    simp only [Json.same_arr_iff] at hcontent
    rw [Option.rel_some_some, Json.same_str_iff] at htype
    exact ⟨htype, (rel_map_iff _ _ _ _).mpr hattrs, hcontent, hmarks.mp hms, htext.mp hs⟩
  · rintro ⟨htype, hattrs, hcontent, hms, hs⟩ key
    repeat' apply rel_ite
    · rw [htype]
      exact .some (.refl _)
    · rw [SameAttrs, rel_map_iff] at hattrs
      exact (rel_map_iff _ _ _ _).mpr hattrs
    · rw [rel_map_iff]
      simpa only [Json.same_arr_iff] using hcontent
    · rw [rel_map_iff]
      exact hmarks.mpr hms
    · rw [rel_map_iff]
      exact htext.mpr hs
    · exact .none

theorem same_payload_iff (d e : DocNode) :
    Json.Same d.payload e.payload ↔ Same d.stripped e.stripped := by
  induction d using DocNode.induction generalizing e with
  | step d ih =>
    have hcontent : Option.Rel (fun ds es => List.Forall₂ Json.Same (ds.map payload)
        (es.map payload)) d.content e.content ↔
          Option.Rel (List.Forall₂ Same) d.stripped.content e.stripped.content := by
      rw [stripped_eq, stripped_eq, rel_map_iff]
      apply rel_congr
      intro ds hds es
      rw [List.forall₂_map_left_iff, List.forall₂_map_right_iff, List.forall₂_map_left_iff,
        List.forall₂_map_right_iff]
      apply forall₂_congr_mem
      intro c hc
      rw [Option.mem_def.mp hds, Option.getD_some] at ih
      exact ih c hc
    rw [same_payload_iff_fields, hcontent]
    constructor
    · rintro ⟨htype, hattrs, hds, hms, hs⟩
      rw [stripped_eq, stripped_eq] at hds ⊢
      exact .intro htype hattrs hds hms hs
    · rintro ⟨htype, hattrs, hds, hms, hs⟩
      rw [stripped_eq, stripped_eq] at htype hattrs hms hs
      exact ⟨htype, hattrs, hds, hms, hs⟩

end DocNode

/-- The payload of a document reads as the document without its null attributes, which has that
payload again. So two documents have the same payload exactly if they are equal apart from null
attributes, be it with or without regard to the order of keys. -/
theorem payload_determines (d : DocNode) :
    DocNode.read d.payload = .ok d.stripped ∧ d.stripped.payload = d.payload ∧
    ∀ e : DocNode, (d.payload = e.payload ↔ d.stripped = e.stripped) ∧
      (Json.Same d.payload e.payload ↔ DocNode.Same d.stripped e.stripped) := by
  refine ⟨?_, d.payload_stripped, fun e => ⟨d.payload_eq_payload_iff e, d.same_payload_iff e⟩⟩
  rw [DocNode.read, DocNode.check_payload]
  rfl

/-- Null goes from the attributes of a node alone, and what is empty stays. -/
example : DocNode.payload { type := "image"
                            attrs := some [("src", .null), ("data", .obj [("alt", .null)])]
                            content := some []
                            marks := some [{ type := "link", attrs := some [("href", .null)] }] } =
    .obj [("type", .str "image"), ("attrs", .obj [("data", .obj [("alt", .null)])]),
      ("content", .arr []),
      ("marks", .arr [.obj [("type", .str "link"), ("attrs", .obj [("href", .null)])]])] :=
  rfl

end RichMarkdown
