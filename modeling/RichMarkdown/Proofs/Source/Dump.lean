import RichMarkdown.Source.Dump
import RichMarkdown.Proofs.Json.Values
import RichMarkdown.Proofs.Source.Reload

/-! The dump of a source tree says which tree it is. -/
namespace RichMarkdown.Source

open Json (Plain)

theorem plain_ofText? (s : Option String) : Plain (.ofText? s) := by
  cases s with
  | none => exact .null
  | some s => exact .str s

theorem Leaf.plain_toJson (l : Leaf) : Plain (.obj (("type", .str l.type) :: l.fields)) := by
  refine .obj ?_ ?_
  · cases l <;> simp [fields, Entries.keys]
  · cases l <;> simp [fields, Plain.str, plain_ofText?]

theorem Parent.plain_allFields (p : Parent) {children : Json} (h : Plain children) :
    Plain (.obj (p.allFields children)) := by
  refine .obj ?_ ?_
  · cases p <;> simp [allFields, fields, Entries.keys]
  · cases p with
    | list ordered start =>
      cases start <;>
        simp [allFields, fields, Json.ofOption, Plain.str, Plain.bool, Plain.int, Plain.null, h]
    | _ => simp [allFields, fields, Plain.str, Plain.int, plain_ofText?, h]

theorem Content.toJsons_eq_map (cs : List Content) : toJsons cs = cs.map toJson := by
  induction cs with
  | nil => rfl
  | cons c rest ih => rw [toJsons, ih, List.map_cons]

theorem plain_toJsons {cs : List Content} (h : ∀ c ∈ cs, Plain c.toJson) :
    Plain (.arr (Content.toJsons cs)) := by
  rw [Content.toJsons_eq_map]
  exact .arr (List.forall_mem_map.mpr h)

theorem Content.plain_toJson (c : Content) : Plain c.toJson := by
  induction c with
  | leaf l => exact l.plain_toJson
  | parent p cs ih => exact p.plain_allFields (plain_toJsons ih)

theorem Node.plain_toJson (n : Node) : Plain n.toJson := by
  cases n with
  | root cs =>
    have hchildren := plain_toJsons fun c (_ : c ∈ cs) => c.plain_toJson
    exact .obj (by simp [Entries.keys]) (by simp [Plain.str, hchildren])
  | content c => exact c.plain_toJson

theorem Node.read?_dump (n : Node) : Json.read? n.dump = some n.toJson :=
  Json.read?_compact n.plain_toJson

/-- No two trees have one dump, whatever texts they hold. -/
theorem dump_eq_iff (a b : Node) : a.dump = b.dump ↔ a = b := by
  refine ⟨fun h => ?_, congrArg Node.dump⟩
  have hjson : some a.toJson = some b.toJson := by
    rw [← a.read?_dump, h, b.read?_dump]
  have hread : readNode a.toJson = readNode b.toJson := by rw [Option.some.inj hjson]
  rw [readNode_toJson, readNode_toJson] at hread
  exact Except.ok.inj hread

end RichMarkdown.Source
