import EntityCrud.Proofs.RoutedColumns
import Mathlib.Data.List.Perm.Basic
/-! The routing table. De-duplication of the columns, of the predicate and of the payload comes to
plain filters of the first writers, one for each role, and no name is used twice. -/
namespace EntityCrud.Routing

/-- The first writers that carry the data of the operation. -/
def carriers (op : Operation) (shape : Shape) (bulkLoad : Bool) (owners : List Column) :
    List Column :=
  match op, shape with
  | .exists, _ | .delete, _ => []
  | .insert, _ => owners.filter fun c => !c.generated
  | .update, _ | .select, .single => owners.filter fun c => !c.primaryKey
  | .select, .collection =>
    let keys := owners.filter fun c => c.primaryKey && !c.foreignKey
    if bulkLoad then keys ++ owners.filter fun c => !c.primaryKey && !c.foreignKey else keys

section
variable {op : Operation} {shape : Shape} {columns : List Column} {bulkLoad : Bool}

/-- A first writer is blocked by the predicate exactly if it is part of it. -/
theorem blocks_predicate {c : Column} (first : c ∈ firstWriters columns) :
    (ofColumns op shape columns bulkLoad).predicate.blocks c = locates op shape c := by
  rw [Bool.eq_iff_iff, Owners.blocks_iff, columns_predicate]
  exact exists_clashes_filter_iff first

/-- The payload is what the predicate leaves of the candidates. -/
theorem columns_payload_eq :
    (ofColumns op shape columns bulkLoad).payload.columns =
      firstWriters ((candidates (payloadRoles op shape bulkLoad) (firstWriters columns)).filter
        fun c => !locates op shape c) := by
  have free : (candidates (payloadRoles op shape bulkLoad) (firstWriters columns)).filter
        (fun c => !(ofColumns op shape columns bulkLoad).predicate.blocks c) =
      (candidates (payloadRoles op shape bulkLoad) (firstWriters columns)).filter
        fun c => !locates op shape c := by
    apply List.filter_congr
    intro c picked
    rw [blocks_predicate (mem_of_mem_candidates picked)]
  rw [← free, ← Owners.columns_ofColumns, ← Owners.columns_ofColumns]
  rfl

theorem columns_payload_single {role : Role} (roles : payloadRoles op shape bulkLoad = [role]) :
    (ofColumns op shape columns bulkLoad).payload.columns =
      (firstWriters columns).filter fun c => !locates op shape c && role.admits c := by
  rw [columns_payload_eq, roles, candidates_singleton, List.filter_filter, firstWriters_filter]

theorem columns_payload_pair {early late : Role}
    (roles : payloadRoles op shape bulkLoad = [early, late]) :
    (ofColumns op shape columns bulkLoad).payload.columns =
      ((firstWriters columns).filter fun c => !locates op shape c && early.admits c) ++
        (firstWriters columns).filter fun c =>
          !(!locates op shape c && early.admits c) && (!locates op shape c && late.admits c) := by
  have parts : candidates [early, late] (firstWriters columns) =
      (firstWriters columns).filter early.admits ++ (firstWriters columns).filter late.admits := by
    simp [candidates, Role.filter]
  rw [columns_payload_eq, roles, parts, List.filter_append, List.filter_filter, List.filter_filter,
    firstWriters_filter_append]

theorem columns_payload :
    (ofColumns op shape columns bulkLoad).payload.columns =
      carriers op shape bulkLoad (firstWriters columns) := by
  cases op
  case «exists» | delete =>
    rw [columns_payload_eq]
    rfl
  case insert | update =>
    rw [columns_payload_single rfl]
    simp [carriers, locates, Role.admits]
  case select =>
    cases shape
    case single =>
      rw [columns_payload_single rfl]
      simp [carriers, locates, Role.admits]
    case collection =>
      cases bulkLoad
      case false =>
        rw [columns_payload_single rfl]
        simp [carriers, locates, Role.admits, Bool.and_comm]
      case true =>
        rw [columns_payload_pair rfl]
        simp only [carriers, locates, Role.admits, if_true]
        congr 1
        · simp only [Bool.and_comm]
        · apply List.filter_congr
          intro c _
          cases c.primaryKey <;> cases c.foreignKey <;> rfl

/-- The columns of both parts, in the order in which the parts are filled. -/
def placed (routing : Routing) : List Column :=
  routing.predicate.columns ++ routing.payload.columns

theorem placed_apart :
    (ofColumns op shape columns bulkLoad).placed.Pairwise fun a b => ¬ a.Clashes b := by
  refine List.pairwise_append.mpr ⟨Owners.apart _, Owners.apart _, ?_⟩
  intro key located c carried
  exact payload_apart_predicate carried located

theorem names_nodup : ((ofColumns op shape columns bulkLoad).placed.map Column.name).Nodup := by
  apply List.pairwise_map.mpr
  apply placed_apart.imp
  intro a b apart same
  exact apart (.inl same)

theorem parameters_nodup :
    ((ofColumns op shape columns bulkLoad).placed.map Column.parameter).Nodup := by
  apply List.pairwise_map.mpr
  apply placed_apart.imp
  intro a b apart same
  exact apart (.inr same)

/-- The keys and the other columns of a set make up the set. -/
theorem perm_by_primaryKey (owners : List Column) :
    ((owners.filter fun c => c.primaryKey) ++ owners.filter fun c => !c.primaryKey).Perm owners :=
  List.filter_append_perm _ _

/-- References to parents, keys among the rest and the other columns of a set make up the set. -/
theorem perm_by_foreignKey (owners : List Column) :
    ((owners.filter fun c => c.foreignKey) ++
      ((owners.filter fun c => c.primaryKey && !c.foreignKey) ++
        owners.filter fun c => !c.primaryKey && !c.foreignKey)).Perm owners := by
  have rest := perm_by_primaryKey (owners.filter fun c => !c.foreignKey)
  rw [List.filter_filter, List.filter_filter] at rest
  exact (rest.append_left _).trans (List.filter_append_perm _ _)

end

/-- The operation uses every column: what does not locate rows is data. -/
def usesAll (op : Operation) (shape : Shape) (bulkLoad : Bool) : Bool :=
  match op, shape with
  | .update, _ | .select, .single => true
  | .select, .collection => bulkLoad
  | .exists, _ | .delete, _ | .insert, _ => false

/-- The parts of a routing are filters of the first writers, in their order. No name is used twice,
and an operation that uses every column loses none. -/
theorem ofColumns_by_role (op : Operation) (shape : Shape) (columns : List Column)
    (options : Options) :
    let owners := firstWriters columns
    let routing := ofColumns op shape columns options.bulkLoad
    routing.predicate.columns = owners.filter (locates op shape) ∧
      routing.payload.columns = carriers op shape options.bulkLoad owners ∧
      (routing.placed.map Column.name).Nodup ∧ (routing.placed.map Column.parameter).Nodup ∧
      (usesAll op shape options.bulkLoad = true → routing.placed.Perm owners) := by
  intro owners routing
  have predicate : routing.predicate.columns = owners.filter (locates op shape) :=
    columns_predicate
  have payload : routing.payload.columns = carriers op shape options.bulkLoad owners :=
    columns_payload
  refine ⟨predicate, payload, names_nodup, parameters_nodup, ?_⟩
  intro all
  rw [placed, predicate, payload]
  cases op
  case «exists» | delete | insert => contradiction
  case update => exact perm_by_primaryKey owners
  case select =>
    cases shape
    case single => exact perm_by_primaryKey owners
    case collection =>
      have bulk : options.bulkLoad = true := all
      rw [carriers, if_pos bulk]
      exact perm_by_foreignKey owners

/-- A key that is also a reference, two columns that claim names of earlier ones, and a column that
claims only the name of a dropped one. -/
def lineColumns : List Column :=
  [{ name := "OrderId", primaryKey := true, foreignKey := true }, { name := "Note" },
    { name := "Line", primaryKey := true }, { name := "Order", parameter := "@OrderId" },
    { name := "Note", parameter := "@Text", foreignKey := true }, { name := "Text" }]

theorem bulk_load_places_lines :
    usesAll .select .collection true = true ∧
      (ofColumns .select .collection lineColumns true).predicate.names = ["OrderId"] ∧
      (ofColumns .select .collection lineColumns true).payload.names = ["Line", "Note", "Text"] ∧
      (ofColumns .select .collection lineColumns true).placed.Perm (firstWriters lineColumns) := by
  obtain ⟨predicate, payload, _, _, whole⟩ :=
    ofColumns_by_role .select .collection lineColumns { bulkLoad := true }
  refine ⟨rfl, ?_, ?_, whole rfl⟩
  · exact congrArg (List.map Column.name) predicate
  · exact congrArg (List.map Column.name) payload

end EntityCrud.Routing
