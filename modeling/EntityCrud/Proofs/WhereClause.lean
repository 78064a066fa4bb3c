import EntityCrud.Proofs.Pieces
/-! The condition of a statement. Whatever touches rows that exist says which ones, by the keys
among the first writers and in one place of the text; an update sets none of them. -/
namespace EntityCrud
open Sql (Dialect Fragment)

namespace Sql.Fragment

theorem where_not_mem_equation (c : Column) : .word " WHERE " ∉ equation c := by
  simp [equation]

theorem where_not_mem_projection (c : Column) : .word " WHERE " ∉ projection c := by
  unfold projection
  cases c.aliasName <;> simp

section
variable (plan : Plan)

theorem where_not_mem_source : .word " WHERE " ∉ source plan := by
  unfold source
  cases plan.aliasName <;> cases plan.dirtyReads <;> simp

theorem where_not_mem_limit {make : UInt32 → Fragment} (other : ∀ n, make n ≠ .word " WHERE ") :
    .word " WHERE " ∉ limit make plan := by
  unfold limit
  cases plan.readLimit with
  | none => simp
  | some n => simpa using (other n).symm

theorem where_not_mem_before : .word " WHERE " ∉ before plan := by
  unfold before
  cases plan.operation
  case update =>
    have list := word_not_mem_separated (by decide : ", " ≠ " WHERE ") where_not_mem_equation
    simp [list]
  case select =>
    have list := word_not_mem_separated (by decide : ", " ≠ " WHERE ") where_not_mem_projection
    have top : .word " WHERE " ∉ limit .limitHead plan := where_not_mem_limit plan (by simp)
    simp [list, top, where_not_mem_source plan]
  all_goals simp [where_not_mem_source plan]

theorem where_not_mem_after : .word " WHERE " ∉ after plan := by
  unfold after
  cases plan.operation
  case select => exact where_not_mem_limit plan (by simp)
  all_goals simp

/-- A statement that touches existing rows opens its condition once. -/
theorem count_where (conditional : plan.operation ≠ .insert) :
    (fragments plan).count (.word " WHERE ") = 1 := by
  have list : .word " WHERE " ∉ separated " AND " (plan.predicate.columns.map equation) :=
    word_not_mem_separated (by decide) where_not_mem_equation _
  rw [fragments_eq plan conditional, List.count_append, List.count_append, condition,
    List.count_cons_self, List.count_eq_zero.mpr (where_not_mem_before plan),
    List.count_eq_zero.mpr (where_not_mem_after plan), List.count_eq_zero.mpr list]

end
end Sql.Fragment

/-- The row limit that a compiled statement ends with, where its dialect writes one there. -/
def closingLimit (op : Operation) (options : Options) : String :=
  match op, options.dialect, options.readLimitEnabled with
  | .select, .postgres, true => " LIMIT " ++ toString options.readLimit.toNat
  | _, _, _ => ""

theorem trail_assemble (op : Operation) (shape : Shape) (columns : List Column) (table : Table)
    (options : Options) :
    Form.trail options.dialect.dialect (Plan.assemble op shape columns table options) =
      closingLimit op options := by
  unfold Form.trail Form.limit closingLimit Plan.assemble
  cases op
  case select => cases options.dialect <;> cases options.readLimitEnabled <;> rfl
  all_goals rfl

namespace Statement

/-- No unconditional statement: after its lead comes the one condition, which compares each key
of the rows among the first writers, and there is at least one; only a row limit can follow. The
columns that an update sets share neither name with a key. -/
theorem compile_names_rows {op : Operation} {shape : Shape} {columns : List Column}
    {table : Table} {options : Options} {s : Statement}
    (compiled : compile op shape columns table options = .ok s) (touches : op ≠ .insert) :
    let d := options.dialect.dialect
    let plan := Plan.assemble op shape columns table options
    let keys := (firstWriters columns).filter (locates op shape)
    keys ≠ [] ∧
      s.sql = Form.lead d plan (plan.assigned.zipIdx 1) ++
        Form.condition d options.encapsulate (keys.zipIdx (1 + plan.assigned.length)) ++
        closingLimit op options ∧
      s.sql = Sql.Fragment.spell d options.encapsulate 1 (Sql.fragments plan) ∧
      (Sql.fragments plan).count (.word " WHERE ") = 1 ∧
      ∀ c ∈ plan.assigned, ∀ key ∈ keys, c.name ≠ key.name ∧ c.parameter ≠ key.parameter := by
  intro d plan keys
  have located : plan.predicate.columns = keys :=
    @Routing.columns_predicate op shape columns options.bulkLoad
  obtain ⟨_, rendered, success, rfl⟩ := compile_eq_ok_iff.mp compiled
  obtain ⟨nonempty, _, rfl⟩ := ofPlan_eq_ok_iff.mp success
  have spelled := Sql.Fragment.spell_fragments d plan
  refine ⟨?_, ?_, spelled.symm, Sql.Fragment.count_where plan touches, ?_⟩
  · rw [← located]
    apply nonempty
    change op.requiresPredicate = true
    cases op <;> first | rfl | contradiction
  · rw [← located, ← trail_assemble op shape columns table options]
    exact Form.text_eq touches
  · intro c set key member
    have carried : c ∈ plan.payload.columns := by
      unfold Plan.assigned at set
      split at set
      · exact set
      · simp at set
    have apart := Routing.payload_apart_predicate carried (located ▸ member)
    exact ⟨fun same => apart (.inl same.symm), fun same => apart (.inr same.symm)⟩

/-- Two keys and a column that claims the parameter of the first one, as its own key. -/
def regionalColumns : List Column :=
  [{ name := "Name" }, { name := "Id", primaryKey := true },
    { name := "Region", primaryKey := true },
    { name := "Code", parameter := "@Id", primaryKey := true }]

theorem update_names_both_keys : ∃ s,
    compile .update .single regionalColumns { name := "T" } { dialect := .postgres } = .ok s ∧
      Operation.update ≠ .insert ∧
      (firstWriters regionalColumns).filter (locates .update .single) ≠ [] ∧
      s.sql = "UPDATE T SET Name = $1" ++ " WHERE " ++ "Id = $2 AND Region = $3" := by
  have compiled : compile .update .single regionalColumns { name := "T" }
    { dialect := .postgres } = .ok _ := rfl
  have named := compile_names_rows compiled (by decide)
  exact ⟨_, compiled, by decide, named.1, named.2.1⟩

end Statement
end EntityCrud
