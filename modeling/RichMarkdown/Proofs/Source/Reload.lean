import RichMarkdown.Source.Reader
import RichMarkdown.Proofs.Source.Nodes

/-! Source trees survive being written out and read again. Reading is lax, but what it has made of a
value once it reads in the written form without change. -/
namespace RichMarkdown

namespace Check

theorem optional_ofOption {α : Type} (check : Json → Check α) (write : α → Json)
    (hcheck : ∀ a, check (write a) = .ok a) (hnull : ∀ a, write a ≠ .null) (value : Option α) :
    optional check (.ofOption write value) = .ok value := by
  cases value with
  | none => rfl
  | some a =>
    have hread : optional check (write a) = (check (write a)).map some := by
      cases hwrite : write a with
      | null => exact absurd hwrite (hnull a)
      | _ => rfl
    rw [Json.ofOption, hread, hcheck]
    rfl

@[simp] theorem optional_ofText? (value : Option String) :
    optional text (.ofText? value) = .ok value :=
  optional_ofOption text .str (fun _ => rfl) (fun _ => Json.noConfusion) value

@[simp] theorem optional_int (value : Option Int) :
    optional number (.ofOption .int value) = .ok value :=
  optional_ofOption number .int (fun _ => rfl) (fun _ => Json.noConfusion) value

theorem required_ok {α : Type} {check : Json → Check α} {name : String}
    {fields : List (String × Json)} {j : Json} {a : α} (hfield : Entries.get? name fields = some j)
    (hcheck : check j = .ok a) : required name check fields = .ok a := by
  rw [required, hfield]
  dsimp only
  rw [hcheck]
  rfl

end Check

namespace Source

def Parent.allFields (p : Parent) (children : Json) : List (String × Json) :=
  ("type", .str p.type) :: p.fields ++ [("children", children)]

theorem readDepth_val (depth : HeadingDepth) : readDepth (.int depth.val) = .ok depth := by
  obtain ⟨val, hone, hsix⟩ := depth
  have hlimit : -numberLimit ≤ (val : Int) ∧ (val : Int) < numberLimit := by
    unfold numberLimit
    omega
  have hlevel : HeadingDepth.ofInt? val = some ⟨val, hone, hsix⟩ := by
    rw [HeadingDepth.ofInt?, dif_pos (by omega)]
    simp
  simp only [readDepth, hlimit.1, hlimit.2, decide_true, Bool.and_self, if_true, hlevel]

theorem readLeaf?_fields (l : Leaf) :
    readLeaf? l.type (("type", .str l.type) :: l.fields) = some (.ok l) := by
  cases l <;> simp [Leaf.type, Leaf.fields, readLeaf?, readDefinition, Check.required,
    Check.nullable, Check.withDefault, Entries.get?, Check.under, Check.text, Check.map2, Check.app,
    Except.map]

theorem readLeaf?_parent (p : Parent) (fields : List (String × Json)) :
    readLeaf? p.type fields = none := by
  cases p <;> simp [Parent.type, readLeaf?]

theorem required_depth (depth : HeadingDepth) (children : Json) :
    Check.required "depth" readDepth ((Parent.heading depth).allFields children) = .ok depth := by
  have hfield : Entries.get? "depth" ((Parent.heading depth).allFields children) =
      some (.int depth.val) := by
    simp [Parent.allFields, Parent.fields, Entries.get?]
  exact Check.required_ok hfield (readDepth_val depth)

theorem readParent?_fields (p : Parent) (children : Json) :
    readParent? p.type (p.allFields children) = some (.ok p) := by
  cases p with
  | heading depth =>
    have hread : ∀ fields, readParent? "heading" fields =
        some ((Check.required "depth" readDepth fields).map .heading) := fun _ => rfl
    rw [Parent.type, hread, required_depth]
    rfl
  | _ => simp [Parent.allFields, Parent.type, Parent.fields, readParent?, Check.required,
      Check.nullable, Check.withDefault, Entries.get?, Check.under, Check.text, Check.flag,
      Check.map2]

theorem readChildren_fields (p : Parent) (children : Json) :
    readChildren (p.allFields children) = .under (.key "children") (readList children) := by
  cases p <;> simp [Parent.allFields, Parent.fields, readChildren]

theorem Parent.get?_type (p : Parent) (children : Json) :
    Entries.get? "type" (p.allFields children) = some (.str p.type) := by
  simp [allFields, Entries.get?]

theorem Leaf.get?_type (l : Leaf) :
    Entries.get? "type" (("type", .str l.type) :: l.fields) = some (.str l.type) := by
  simp [Entries.get?]

theorem readItems_toJsons {cs : List Content} (hcs : ∀ c ∈ cs, readContent c.toJson = .ok c)
    (n : Nat) : readItems n (Content.toJsons cs) = .ok cs := by
  induction cs generalizing n with
  | nil => rfl
  | cons c rest ih =>
    have hrest := ih (fun d hd => hcs d (List.mem_cons_of_mem c hd)) (n + 1)
    rw [Content.toJsons, readItems, hcs c List.mem_cons_self, hrest]
    rfl

theorem readChildren_toJsons {cs : List Content} (hcs : ∀ c ∈ cs, readContent c.toJson = .ok c)
    (p : Parent) : readChildren (p.allFields (.arr (Content.toJsons cs))) = .ok cs := by
  rw [readChildren_fields, readList, readItems_toJsons hcs]
  rfl

theorem readContent_toJson (c : Content) : readContent c.toJson = .ok c := by
  induction c with
  | leaf l =>
    rw [Content.toJson, readContent, l.get?_type]
    dsimp only
    rw [readTyped, readLeaf?_fields]
    rfl
  | parent p cs ih =>
    have hjson : (Content.parent p cs).toJson = .obj (p.allFields (.arr (Content.toJsons cs))) := by
      rw [Content.toJson, Parent.allFields]
    rw [hjson, readContent, p.get?_type]
    dsimp only
    rw [readTyped, readLeaf?_parent, readParent?_fields, readChildren_toJsons ih]
    rfl

theorem type_ne_root (c : Content) : c.type ≠ "root" := by
  cases c with
  | leaf l => cases l <;> simp [Content.type, Leaf.type]
  | parent p cs => cases p <;> simp [Content.type, Parent.type]

theorem readNode_content {fields : List (String × Json)} {type : String}
    (htype : Entries.get? "type" fields = some (.str type)) (hroot : type ≠ "root") :
    readNode (.obj fields) = (readContent (.obj fields)).map .content := by
  unfold readNode
  dsimp only
  rw [htype]
  split
  · next heq => exact absurd (Json.str.inj (Option.some.inj heq)) hroot
  · rfl

theorem readNode_toJson (n : Node) : readNode n.toJson = .ok n := by
  cases n with
  | root cs =>
    have hchildren : readChildren [("type", .str "root"), ("children", .arr (Content.toJsons cs))] =
        .ok cs := by
      simp [readChildren, readList, readItems_toJsons fun c _ => readContent_toJson c, Check.under]
    have hread : readNode (Node.root cs).toJson = .under (.key "root")
        ((readChildren [("type", .str "root"), ("children", .arr (Content.toJsons cs))]).map
          .root) := rfl
    rw [hread, hchildren]
    rfl
  | content c =>
    have hread : readNode c.toJson = (readContent c.toJson).map .content := by
      cases c with
      | leaf l => exact readNode_content (l.get?_type) (type_ne_root (.leaf l))
      | parent p cs => exact readNode_content (p.get?_type _) (type_ne_root (.parent p cs))
    rw [Node.toJson, hread, readContent_toJson]
    rfl

theorem Definition.read_toJson (d : Definition) :
    Definition.read (Content.leaf (.definition d)).toJson = .ok d := by
  simp [Definition.read, Content.toJson, Leaf.type, Leaf.fields, Entries.get?, readDefinition,
    Check.required, Check.nullable, Check.withDefault, Check.under, Check.text, Check.map2,
    Check.app, Check.titled]

/-- Every tree reads from its written form as it is. So whatever a value was read as, be it by
coercion of its fields or with fields passed over or left out, reads as itself from then on; and the
same holds of definitions that stand for themselves. -/
theorem reload_stable :
    (∀ n : Node, Node.read n.toJson = .ok n) ∧
    (∀ (j : Json) (n : Node), Node.read j = .ok n → Node.read n.toJson = .ok n) ∧
    (∀ d : Definition, Definition.read (Content.leaf (.definition d)).toJson = .ok d) ∧
    ∀ (j : Json) (d : Definition), Definition.read j = .ok d →
      Definition.read (Content.leaf (.definition d)).toJson = .ok d := by
  have hread : ∀ n : Node, Node.read n.toJson = .ok n := by
    intro n
    rw [Node.read, readNode_toJson]
    rfl
  exact ⟨hread, fun _ n _ => hread n, Definition.read_toJson, fun _ d _ => d.read_toJson⟩

def looseList : Json :=
  .obj [("start", .str " 1_0.0 "), ("type", .str "list"), ("ordered", .str "Yes"),
    ("children", .arr [.obj [("type", .str "heading"), ("depth", .bool true)]]),
    ("more", .null)]

def strictList : Node :=
  .content (.parent (.list true (some 10)) [.parent (.heading ⟨1, by decide, by decide⟩) []])

theorem read_looseList : Node.read looseList = .ok strictList := by
  with_unfolding_all rfl

theorem looseList_reload :
    Node.read looseList = .ok strictList ∧ Node.read strictList.toJson = .ok strictList :=
  ⟨read_looseList, reload_stable.2.1 looseList strictList read_looseList⟩

end Source

end RichMarkdown
