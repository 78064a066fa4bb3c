import EntityCrud.Proofs.FirstWriters
import EntityCrud.Routing
/-! The two parts of a routing. The predicate is the first writers with the role that locates
rows; no payload column shares a name with one of them. -/
namespace EntityCrud

/-- The column locates the rows of the operation: none does for an insert, the foreign keys do
for the children of a collection, and otherwise the primary keys do. -/
def locates : Operation → Shape → Column → Bool
  | .insert, _, _ => false
  | .select, .collection, c => c.foreignKey
  | _, _, c => c.primaryKey

namespace Routing

theorem candidates_singleton (role : Role) (columns : List Column) :
    candidates [role] columns = columns.filter role.admits := by
  simp [candidates, Role.filter]

theorem mem_of_mem_candidates {roles : List Role} {columns : List Column} {c : Column}
    (picked : c ∈ candidates roles columns) : c ∈ columns := by
  obtain ⟨role, _, picked⟩ := List.mem_flatMap.mp picked
  exact (List.mem_filter.mp picked).1

theorem candidates_predicateRoles (op : Operation) (shape : Shape) (columns : List Column) :
    candidates (predicateRoles op shape) columns = columns.filter (locates op shape) := by
  cases op <;> cases shape
  case insert.single | insert.collection => simp [predicateRoles, candidates, locates]
  all_goals exact candidates_singleton _ columns

/-- A routing looks at first writers only. -/
theorem ofColumns_congr {columns columns' : List Column}
    (same : firstWriters columns = firstWriters columns') (op : Operation) (shape : Shape)
    (bulkLoad : Bool) :
    ofColumns op shape columns bulkLoad = ofColumns op shape columns' bulkLoad := by
  simp only [ofColumns, Owners.columns_ofColumns, same]

section
variable {op : Operation} {shape : Shape} {columns : List Column} {bulkLoad : Bool}

theorem columns_predicate : (ofColumns op shape columns bulkLoad).predicate.columns =
    (firstWriters columns).filter (locates op shape) := by
  change (Owners.ofColumns (candidates _ (Owners.ofColumns columns).columns)).columns = _
  rw [candidates_predicateRoles, Owners.columns_ofColumns, Owners.columns_ofColumns,
    firstWriters_filter]

theorem mem_of_mem_predicate {c : Column}
    (key : c ∈ (ofColumns op shape columns bulkLoad).predicate.columns) : c ∈ columns := by
  rw [columns_predicate] at key
  exact (firstWritersAfter_sublist [] columns).subset (List.mem_filter.mp key).1

/-- A payload column was a candidate, and the predicate left it free. -/
theorem of_mem_payload {c : Column}
    (carried : c ∈ (ofColumns op shape columns bulkLoad).payload.columns) :
    c ∈ columns ∧ (ofColumns op shape columns bulkLoad).predicate.blocks c = false := by
  obtain ⟨picked, free⟩ := List.mem_filter.mp (Owners.mem_of_mem_ofColumns carried)
  exact ⟨Owners.mem_of_mem_ofColumns (mem_of_mem_candidates picked),
    (Bool.not_eq_true' _).mp free⟩

theorem payload_apart_predicate {c key : Column}
    (carried : c ∈ (ofColumns op shape columns bulkLoad).payload.columns)
    (located : key ∈ (ofColumns op shape columns bulkLoad).predicate.columns) :
    ¬ key.Clashes c := by
  intro clash
  have taken := Owners.blocks_iff.mpr ⟨key, located, clash⟩
  rw [(of_mem_payload carried).2] at taken
  contradiction

end
end Routing
end EntityCrud
