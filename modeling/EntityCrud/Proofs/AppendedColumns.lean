import EntityCrud.Proofs.Compilation
import EntityCrud.Proofs.RoutingTable
import Mathlib.Data.List.Infix
/-! Columns put at the end of a list. They take nothing from the columns before them: what located
rows or carried data goes on doing so in the same order, and a condition can only become narrower. -/
namespace EntityCrud

theorem firstWriters_front (columns more : List Column) :
    firstWriters columns <+: firstWriters (columns ++ more) :=
  ⟨_, (firstWriters_append columns more).symm⟩

namespace Routing

section
variable {op : Operation} {shape : Shape} {bulkLoad : Bool} {owners owners' : List Column}

/-- More first writers at the end carry more data at the end, except in bulk loading, where the keys
among them come before the other columns. -/
theorem carriers_front (longer : owners <+: owners')
    (inOrder : ¬ (op = .select ∧ shape = .collection ∧ bulkLoad = true)) :
    carriers op shape bulkLoad owners <+: carriers op shape bulkLoad owners' := by
  unfold carriers
  split
  · exact List.prefix_rfl
  · exact List.prefix_rfl
  · exact longer.filter _
  · exact longer.filter _
  · exact longer.filter _
  · have plain : bulkLoad = false := by simpa using inOrder
    rw [plain]
    exact longer.filter _

theorem carriers_sublist (longer : owners <+: owners') :
    (carriers op shape bulkLoad owners).Sublist (carriers op shape bulkLoad owners') := by
  by_cases bulk : op = .select ∧ shape = .collection ∧ bulkLoad = true
  · obtain ⟨rfl, rfl, rfl⟩ := bulk
    exact (longer.filter _).sublist.append (longer.filter _).sublist
  · exact (carriers_front longer bulk).sublist

end

section
variable {op : Operation} {shape : Shape} (bulkLoad : Bool) (columns more : List Column)

theorem predicate_front : (ofColumns op shape columns bulkLoad).predicate.columns <+:
    (ofColumns op shape (columns ++ more) bulkLoad).predicate.columns := by
  rw [columns_predicate, columns_predicate]
  exact (firstWriters_front columns more).filter _

theorem payload_sublist : (ofColumns op shape columns bulkLoad).payload.columns.Sublist
    (ofColumns op shape (columns ++ more) bulkLoad).payload.columns := by
  rw [columns_payload, columns_payload]
  exact carriers_sublist (firstWriters_front columns more)

theorem payload_front (inOrder : ¬ (op = .select ∧ shape = .collection ∧ bulkLoad = true)) :
    (ofColumns op shape columns bulkLoad).payload.columns <+:
      (ofColumns op shape (columns ++ more) bulkLoad).payload.columns := by
  rw [columns_payload, columns_payload]
  exact carriers_front (firstWriters_front columns more) inOrder

end
end Routing

namespace Plan
variable {op : Operation} {shape : Shape} {columns more : List Column} {table : Table}
  {options : Options}

theorem fault?_append (usable : fault? columns table options = none)
    (sound : ∀ c ∈ more, c.fault? = none) : fault? (columns ++ more) table options = none := by
  obtain ⟨blank, nul, listed, first, limit⟩ := fault?_eq_none_iff.mp usable
  refine fault?_eq_none_iff.mpr ⟨blank, nul, ?_, ?_, limit⟩
  · exact List.append_ne_nil_of_left_ne_nil listed more
  · exact List.forall_mem_append.mpr ⟨first, sound⟩

theorem predicate_front : (assemble op shape columns table options).predicate.columns <+:
    (assemble op shape (columns ++ more) table options).predicate.columns :=
  Routing.predicate_front options.bulkLoad columns more

theorem payload_sublist : (assemble op shape columns table options).payload.columns.Sublist
    (assemble op shape (columns ++ more) table options).payload.columns :=
  Routing.payload_sublist options.bulkLoad columns more

end Plan

namespace Form
variable {d : Sql.Dialect} {plan : Plan}

theorem condition_append (encapsulate : Bool) {bound : List (Column × Nat)} (nonempty : bound ≠ [])
    (more : List (Column × Nat)) :
    ∃ rest, condition d encapsulate (bound ++ more) = condition d encapsulate bound ++ rest := by
  unfold condition
  rw [List.map_append]
  by_cases none : more = []
  · exact ⟨"", by simp [none]⟩
  · have left : bound.map (equation d encapsulate) ≠ [] := by simpa using nonempty
    have right : more.map (equation d encapsulate) ≠ [] := by simpa using none
    rw [String.intercalate_append_of_ne_nil left right]
    exact ⟨_, by simp only [String.append_assoc]; rfl⟩

/-- Existence tests and deletions are a lead and a condition. -/
theorem text_eq_of_bare (bare : plan.operation = .exists ∨ plan.operation = .delete) :
    text d plan (plan.bound.zipIdx 1) =
      lead d plan [] ++ condition d plan.encapsulate (plan.predicate.columns.zipIdx 1) := by
  have conditional : plan.operation ≠ .insert := by
    rcases bare with op | op <;> simp [op]
  have unassigned : plan.assigned = [] := by
    unfold Plan.assigned
    rcases bare with op | op <;> rw [op]
  have unlimited : trail d plan = "" := by
    unfold trail
    rcases bare with op | op <;> rw [op]
  rw [text_eq conditional, unassigned, unlimited, String.append_empty]
  rfl

end Form

namespace Statement
variable {op : Operation} {shape : Shape} {columns more : List Column} {table : Table}
  {options : Options} {s s' : Statement}

theorem compile_append_ok (compiled : compile op shape columns table options = .ok s)
    (sound : ∀ c ∈ more, c.fault? = none) :
    ∃ s', compile op shape (columns ++ more) table options = .ok s' := by
  obtain ⟨usable, located, carried, _⟩ := compile_eq_form_iff.mp compiled
  refine ⟨_, compile_eq_form_iff.mpr ⟨Plan.fault?_append usable sound, ?_, ?_, rfl⟩⟩
  · intro required none
    exact located required (List.prefix_nil.mp (none ▸ Plan.predicate_front))
  · intro required none
    exact carried required (List.sublist_nil.mp (none ▸ Plan.payload_sublist))

/-- More columns at the end give an existence test or a deletion further equations at its end, and
nothing else. -/
theorem compile_append_bare (bare : op = .exists ∨ op = .delete)
    (compiled : compile op shape columns table options = .ok s)
    (longer : compile op shape (columns ++ more) table options = .ok s') :
    (∃ rest, s'.sql = s.sql ++ rest) ∧ s.parameters <+: s'.parameters := by
  let d := options.dialect.dialect
  let plan := Plan.assemble op shape columns table options
  let plan' := Plan.assemble op shape (columns ++ more) table options
  obtain ⟨_, located, _, rfl⟩ := compile_eq_form_iff.mp compiled
  obtain ⟨_, _, _, rfl⟩ := compile_eq_form_iff.mp longer
  obtain ⟨further, joined⟩ : plan.predicate.columns <+: plan'.predicate.columns :=
    Plan.predicate_front
  have nonempty : plan.predicate.columns.zipIdx 1 ≠ [] := by
    rw [Ne, List.zipIdx_eq_nil_iff]
    apply located
    rcases bare with rfl | rfl <;> rfl
  obtain ⟨rest, condition⟩ := @Form.condition_append d options.encapsulate _ nonempty
    (further.zipIdx (1 + plan.predicate.columns.length))
  have lead : Form.lead d plan' [] = Form.lead d plan [] := by rcases bare with rfl | rfl <;> rfl
  constructor
  · refine ⟨rest, ?_⟩
    calc Form.text d plan' (plan'.bound.zipIdx 1)
      _ = Form.lead d plan' [] ++
          Form.condition d options.encapsulate (plan'.predicate.columns.zipIdx 1) :=
        Form.text_eq_of_bare bare
      _ = Form.lead d plan [] ++
          (Form.condition d options.encapsulate (plan.predicate.columns.zipIdx 1) ++ rest) := by
        rw [lead, ← joined, List.zipIdx_append, condition]
      _ = Form.text d plan (plan.bound.zipIdx 1) ++ rest := by
        rw [Form.text_eq_of_bare bare, String.append_assoc]
        rfl
  · have bound : plan.bound <+: plan'.bound := by
      rcases bare with rfl | rfl <;> exact ⟨further, joined⟩
    exact bound.map _

/-- Usable columns at the end of a list never loosen a statement. The rows are located by the same
columns first, the same data is carried, in the same order, and what compiles still does; an
existence test or a deletion becomes longer at its end. -/
theorem compile_append (op : Operation) (shape : Shape) (columns : List Column) {more : List Column}
    (table : Table) (options : Options) (sound : ∀ c ∈ more, c.fault? = none) :
    let routing := Routing.ofColumns op shape columns options.bulkLoad
    let routing' := Routing.ofColumns op shape (columns ++ more) options.bulkLoad
    routing.predicate.columns <+: routing'.predicate.columns ∧
      routing.payload.columns.Sublist routing'.payload.columns ∧
      (¬ (op = .select ∧ shape = .collection ∧ options.bulkLoad = true) →
        routing.payload.columns <+: routing'.payload.columns) ∧
      ∀ s, compile op shape columns table options = .ok s →
        ∃ s', compile op shape (columns ++ more) table options = .ok s' ∧
          (op = .exists ∨ op = .delete →
            (∃ rest, s'.sql = s.sql ++ rest) ∧ s.parameters <+: s'.parameters) := by
  intro routing routing'
  refine ⟨Routing.predicate_front _ columns more, Routing.payload_sublist _ columns more,
    Routing.payload_front _ columns more, ?_⟩
  intro s compiled
  obtain ⟨s', longer⟩ := compile_append_ok compiled sound
  exact ⟨s', longer, fun bare => compile_append_bare bare compiled longer⟩

/-- A column that claims the name of an earlier key, and a key of its own. -/
def laterColumns : List Column :=
  [{ name := "Id", parameter := "@Other", primaryKey := true },
    { name := "Region", primaryKey := true }]

theorem delete_narrowed_by_later_key :
    (∀ c ∈ laterColumns, c.fault? = none) ∧ ∃ s s',
      compile .delete .single [{ name := "Id", primaryKey := true }] { name := "T" }
        { dialect := .postgres } = .ok s ∧
      compile .delete .single ([{ name := "Id", primaryKey := true }] ++ laterColumns)
        { name := "T" } { dialect := .postgres } = .ok s' ∧
      s.sql = "DELETE FROM T WHERE Id = $1" ∧ (∃ rest, s'.sql = s.sql ++ rest) ∧
      s'.sql = "DELETE FROM T WHERE Id = $1 AND Region = $2" := by
  have sound : ∀ c ∈ laterColumns, c.fault? = none := by decide
  have compiled : compile .delete .single [{ name := "Id", primaryKey := true }] { name := "T" }
    { dialect := .postgres } = .ok _ := rfl
  obtain ⟨_, _, _, kept⟩ := compile_append .delete .single [{ name := "Id", primaryKey := true }]
    { name := "T" } { dialect := .postgres } sound
  obtain ⟨s', longer, narrower⟩ := kept _ compiled
  refine ⟨sound, _, s', compiled, longer, by decide, (narrower (.inr rfl)).1, ?_⟩
  obtain rfl := Except.ok.inj (longer.symm.trans rfl)
  decide

end Statement
end EntityCrud
