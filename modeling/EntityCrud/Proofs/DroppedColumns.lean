import EntityCrud.Proofs.Compilation
/-! Columns that lose a name. Once they are known to be usable, the columns that are no first writers
have no part in a compilation, whatever their roles are. -/
namespace EntityCrud

/-- Columns count for the arguments only by the first fault among them and by being there at all. -/
theorem Plan.fault?_congr {columns columns' : List Column} (listed : columns = [] ↔ columns' = [])
    (faults : columns.findSome? Column.fault? = columns'.findSome? Column.fault?) (table : Table)
    (options : Options) : fault? columns table options = fault? columns' table options := by
  have empty : columns.isEmpty = columns'.isEmpty :=
    Bool.eq_iff_iff.mpr (List.isEmpty_iff.trans (listed.trans List.isEmpty_iff.symm))
  unfold fault?
  rw [empty, faults]

namespace Statement

theorem compile_congr {columns columns' : List Column}
    (owners : firstWriters columns = firstWriters columns')
    (faults : columns.findSome? Column.fault? = columns'.findSome? Column.fault?)
    (op : Operation) (shape : Shape) (table : Table) (options : Options) :
    compile op shape columns table options = compile op shape columns' table options := by
  have listed : columns = [] ↔ columns' = [] := by
    rw [← firstWriters_eq_nil_iff, owners, firstWriters_eq_nil_iff]
  have plans : Plan.assemble op shape columns table options =
      Plan.assemble op shape columns' table options := by
    simp only [Plan.assemble, Routing.ofColumns_congr owners]
  rw [compile_eq, compile_eq, Plan.fault?_congr listed faults, plans]

/-- Usable columns compile like the first writers among them. A usable column that loses one of its
names to a first writer before it can stand in any place without a trace. -/
theorem compile_firstWriters (op : Operation) (shape : Shape) (table : Table) (options : Options) :
    (∀ columns : List Column, (∀ c ∈ columns, c.fault? = none) →
      compile op shape columns table options =
        compile op shape (firstWriters columns) table options) ∧
    ∀ (before after : List Column) (c : Column), c.fault? = none →
      (∃ owner ∈ firstWriters before, owner.Clashes c) →
        compile op shape (before ++ c :: after) table options =
          compile op shape (before ++ after) table options := by
  constructor
  · intro columns usable
    have kept : ∀ c ∈ firstWriters columns, c.fault? = none := by
      intro c first
      exact usable c ((firstWritersAfter_sublist [] columns).subset first)
    apply compile_congr (firstWriters_firstWriters columns).symm
    rw [List.findSome?_eq_none_iff.mpr usable, List.findSome?_eq_none_iff.mpr kept]
  · intro before after c usable loses
    apply compile_congr (firstWriters_insert loses after)
    rw [List.findSome?_append, List.findSome?_append, List.findSome?_cons, usable]

/-- A column with every role, which claims the parameter of the key. -/
def claimant : Column := { name := "Code", parameter := "@Id", primaryKey := true, foreignKey := true }

theorem claimant_without_trace :
    let key : Column := { name := "Id", primaryKey := true }
    let columns := [key, claimant, { name := "Name" }]
    (∀ c ∈ columns, c.fault? = none) ∧ (∃ owner ∈ firstWriters [key], owner.Clashes claimant) ∧
      ∃ s, compile .update .single columns { name := "T" } {} = .ok s ∧
        compile .update .single (firstWriters columns) { name := "T" } {} = .ok s ∧
        s.sql = "UPDATE T SET Name = @Name WHERE Id = @Id" := by
  intro key columns
  have usable : ∀ c ∈ columns, c.fault? = none := by decide
  have loses : ∃ owner ∈ firstWriters [key], owner.Clashes claimant := by decide
  obtain ⟨whole, inserted⟩ := compile_firstWriters .update .single { name := "T" } {}
  have dropped := inserted [key] [{ name := "Name" }] claimant (by decide) loses
  have rest : compile .update .single [{ name := "Id", primaryKey := true }, { name := "Name" }]
    { name := "T" } {} = .ok _ := rfl
  have compiled := dropped.trans rest
  exact ⟨usable, loses, _, compiled, (whole columns usable).symm.trans compiled, rfl⟩

end Statement
end EntityCrud
