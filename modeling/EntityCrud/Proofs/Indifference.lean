import EntityCrud.Proofs.Pieces
import EntityCrud.Proofs.RoutingTable
/-! What an operation does not read. Two calls that differ only there are refused alike or yield the
same text with the same parameters: the plans of such calls agree in all that a form looks at. -/
namespace EntityCrud
open Sql (Dialect)

/-- Two columns that differ only in what no statement of the operation shows. -/
structure Column.Alike (op : Operation) (a b : Column) : Prop where
  name : a.name = b.name
  parameter : a.parameter = b.parameter
  primaryKey : a.primaryKey = b.primaryKey
  foreignKey : a.foreignKey = b.foreignKey
  generated : a.generated = b.generated
  shownAs : op = .select → a.aliasName = b.aliasName

/-- The column with nothing left but what the operation reads of it. -/
def Column.readBy (op : Operation) (c : Column) : Column where
  name := c.name
  parameter := c.parameter
  aliasName := if op = .select then c.aliasName else none
  primaryKey := c.primaryKey
  foreignKey := c.foreignKey
  generated := c.generated

theorem Column.Alike.readBy_eq {op : Operation} {a b : Column} (alike : a.Alike op b) :
    a.readBy op = b.readBy op := by
  unfold readBy
  congr 1
  · exact alike.name
  · exact alike.parameter
  · split
    · exact alike.shownAs ‹_›
    · rfl
  · exact alike.primaryKey
  · exact alike.foreignKey
  · exact alike.generated

theorem map_readBy_eq {op : Operation} {columns columns' : List Column}
    (alike : List.Forall₂ (Column.Alike op) columns columns') :
    columns.map (Column.readBy op) = columns'.map (Column.readBy op) := by
  induction alike with
  | nil => rfl
  | cons first _ ih => rw [List.map_cons, List.map_cons, first.readBy_eq, ih]

/-- Columns that an operation reads alike look alike to whatever looks only at what it reads. -/
theorem map_eq_of_map_readBy {α : Type} {op : Operation} {columns columns' : List Column}
    {g : Column → α} (reads : ∀ c, g (c.readBy op) = g c)
    (same : columns.map (Column.readBy op) = columns'.map (Column.readBy op)) :
    columns.map g = columns'.map g := by
  have through : g ∘ Column.readBy op = g := funext reads
  have mapped := congrArg (List.map g) same
  rwa [List.map_map, List.map_map, through] at mapped

theorem map_zipIdx_eq_of_map_readBy {α : Type} {op : Operation} {columns columns' : List Column}
    {g : Column × Nat → α} (reads : ∀ c place, g (c.readBy op, place) = g (c, place))
    (same : columns.map (Column.readBy op) = columns'.map (Column.readBy op)) (start : Nat) :
    (columns.zipIdx start).map g = (columns'.zipIdx start).map g := by
  have through : g ∘ Prod.map (Column.readBy op) id = g := funext fun b => reads b.1 b.2
  have mapped := congrArg (fun read => (read.zipIdx start).map g) same
  simp only [List.zipIdx_map, List.map_map, through] at mapped
  exact mapped

namespace Routing
variable {op : Operation} {shape shape' : Shape}

theorem locates_readBy (c : Column) : locates op shape (c.readBy op) = locates op shape c := by
  cases op <;> cases shape <;> rfl

theorem locates_eq (same : op = .select → shape = shape') :
    locates op shape = locates op shape' := by
  cases op
  case select => rw [same rfl]
  all_goals rfl

theorem carriers_map_readBy {bulkLoad : Bool} (owners : List Column) :
    carriers op shape bulkLoad (owners.map (Column.readBy op)) =
      (carriers op shape bulkLoad owners).map (Column.readBy op) := by
  have kept (p : Column → Bool) (reads : ∀ c, p (c.readBy op) = p c) :
      (owners.map (Column.readBy op)).filter p = (owners.filter p).map (Column.readBy op) := by
    rw [List.filter_map]
    exact congrArg (fun q => (owners.filter q).map _) (funext reads)
  unfold carriers
  split
  · rfl
  · rfl
  · exact kept _ fun _ => rfl
  · exact kept _ fun _ => rfl
  · exact kept _ fun _ => rfl
  · rw [kept _ fun _ => rfl, kept _ fun _ => rfl]
    split
    · rw [List.map_append]
    · rfl

theorem carriers_eq {bulkLoad bulkLoad' : Bool} (same : op = .select → shape = shape')
    (bulk : op = .select → shape = .collection → bulkLoad = bulkLoad') :
    carriers op shape bulkLoad = carriers op shape' bulkLoad' := by
  cases op
  case select =>
    rw [← same rfl]
    cases shape
    case single => rfl
    case collection => rw [bulk rfl rfl]
  all_goals rfl

theorem firstWriters_readBy {columns columns' : List Column}
    (alike : columns.map (Column.readBy op) = columns'.map (Column.readBy op)) :
    (firstWriters columns).map (Column.readBy op) =
      (firstWriters columns').map (Column.readBy op) := by
  have clashes (a b : Column) : (a.readBy op).Clashes (b.readBy op) ↔ a.Clashes b := Iff.rfl
  rw [← firstWriters_map clashes, alike, firstWriters_map clashes]

section
variable {columns columns' : List Column} {bulkLoad bulkLoad' : Bool}
  (alike : columns.map (Column.readBy op) = columns'.map (Column.readBy op))
  (same : op = .select → shape = shape')
include alike same

theorem predicate_readBy :
    (ofColumns op shape columns bulkLoad).predicate.columns.map (Column.readBy op) =
      (ofColumns op shape' columns' bulkLoad').predicate.columns.map (Column.readBy op) := by
  have picked (columns : List Column) :
      ((firstWriters columns).filter (locates op shape)).map (Column.readBy op) =
        ((firstWriters columns).map (Column.readBy op)).filter (locates op shape) := by
    rw [List.filter_map]
    exact congrArg (fun p => ((firstWriters columns).filter p).map _)
      (funext fun c => (locates_readBy c).symm)
  rw [columns_predicate, columns_predicate, ← locates_eq same, picked, picked,
    firstWriters_readBy alike]

theorem payload_readBy (bulk : op = .select → shape = .collection → bulkLoad = bulkLoad') :
    (ofColumns op shape columns bulkLoad).payload.columns.map (Column.readBy op) =
      (ofColumns op shape' columns' bulkLoad').payload.columns.map (Column.readBy op) := by
  rw [columns_payload, columns_payload, ← carriers_eq same bulk, ← carriers_map_readBy,
    ← carriers_map_readBy, firstWriters_readBy alike]

end
end Routing

/-- Two plans of one operation that agree in all that its form looks at under the dialect. -/
structure Plan.Alike (op : Operation) (d : Dialect) (p q : Plan) : Prop where
  operation : p.operation = op
  operation' : q.operation = op
  table : p.table = q.table
  sourceType : p.sourceType = q.sourceType
  encapsulate : p.encapsulate = q.encapsulate
  predicate : p.predicate.columns.map (Column.readBy op) =
    q.predicate.columns.map (Column.readBy op)
  payload : p.payload.columns.map (Column.readBy op) = q.payload.columns.map (Column.readBy op)
  aliasName : op.showsAlias = true → p.aliasName = q.aliasName
  hint : op.showsAlias = true → Form.hint d p = Form.hint d q
  limit : op = .select → p.readLimit = q.readLimit

namespace Plan.Alike
variable {op : Operation} {d : Dialect} {p q : Plan} (alike : p.Alike op d q)
include alike

theorem bound_readBy : p.bound.map (Column.readBy op) = q.bound.map (Column.readBy op) := by
  unfold bound
  rw [alike.operation, alike.operation']
  cases op with
  | insert => exact alike.payload
  | update => rw [List.map_append, List.map_append, alike.payload, alike.predicate]
  | «exists» | delete | select => exact alike.predicate

theorem assigned_readBy :
    p.assigned.map (Column.readBy op) = q.assigned.map (Column.readBy op) := by
  unfold assigned
  rw [alike.operation, alike.operation']
  cases op with
  | update => exact alike.payload
  | «exists» | delete | insert | select => rfl

theorem table_eq : Form.table d p = Form.table d q := by
  unfold Form.table
  rw [alike.encapsulate, alike.table]

theorem source_eq (shows : op.showsAlias = true) : Form.source d p = Form.source d q := by
  unfold Form.source
  rw [alike.table_eq, alike.encapsulate, alike.aliasName shows, alike.hint shows]

theorem equations_eq {columns columns' : List Column}
    (same : columns.map (Column.readBy op) = columns'.map (Column.readBy op)) (start : Nat) :
    (columns.zipIdx start).map (Form.equation d p.encapsulate) =
      (columns'.zipIdx start).map (Form.equation d q.encapsulate) := by
  rw [alike.encapsulate]
  exact map_zipIdx_eq_of_map_readBy (fun _ _ => rfl) same start

theorem condition_eq (start : Nat) :
    Form.condition d p.encapsulate (p.predicate.columns.zipIdx start) =
      Form.condition d q.encapsulate (q.predicate.columns.zipIdx start) := by
  unfold Form.condition
  rw [alike.equations_eq alike.predicate]

theorem insertion_eq :
    Form.insertion d p (p.bound.zipIdx 1) = Form.insertion d q (q.bound.zipIdx 1) := by
  have names : (p.bound.zipIdx 1).map (fun b => d.identifier p.encapsulate b.1.name) =
      (q.bound.zipIdx 1).map fun b => d.identifier q.encapsulate b.1.name := by
    rw [alike.encapsulate]
    exact map_zipIdx_eq_of_map_readBy (fun _ _ => rfl) alike.bound_readBy 1
  have marks : (p.bound.zipIdx 1).map (Form.mark d) = (q.bound.zipIdx 1).map (Form.mark d) :=
    map_zipIdx_eq_of_map_readBy (fun _ _ => rfl) alike.bound_readBy 1
  unfold Form.insertion Form.inserted
  rw [alike.table_eq, names, marks]

theorem projections_eq (selects : op = .select) :
    p.payload.columns.map (Form.projection d p.encapsulate) =
      q.payload.columns.map (Form.projection d q.encapsulate) := by
  subst selects
  rw [alike.encapsulate]
  exact map_eq_of_map_readBy (fun _ => rfl) alike.payload

theorem lead_eq :
    Form.lead d p (p.assigned.zipIdx 1) = Form.lead d q (q.assigned.zipIdx 1) := by
  unfold Form.lead
  rw [alike.operation, alike.operation']
  cases op with
  | «exists» => rw [alike.source_eq rfl]
  | delete => rw [alike.table_eq]
  | insert => rfl
  | select =>
    simp only [Form.limit, alike.limit rfl, alike.projections_eq rfl, alike.source_eq rfl]
  | update => simp only [alike.table_eq, alike.equations_eq alike.assigned_readBy]

theorem trail_eq : Form.trail d p = Form.trail d q := by
  unfold Form.trail
  rw [alike.operation, alike.operation']
  cases op with
  | select => simp only [Form.limit, alike.limit rfl]
  | «exists» | delete | insert | update => rfl

theorem text_eq : Form.text d p (p.bound.zipIdx 1) = Form.text d q (q.bound.zipIdx 1) := by
  by_cases inserts : op = .insert
  · unfold Form.text
    rw [alike.operation, alike.operation', inserts]
    exact alike.insertion_eq
  · have length : p.assigned.length = q.assigned.length := by
      simpa using congrArg List.length alike.assigned_readBy
    rw [Form.text_eq (alike.operation ▸ inserts), Form.text_eq (alike.operation' ▸ inserts),
      alike.lead_eq, alike.condition_eq, alike.trail_eq, length]

end Plan.Alike

namespace Statement

/-- What a database is sent, next to the values: the text and the names of the parameters. -/
def shown (s : Statement) : String × List String := (s.sql, s.parameterNames)

theorem ofPlan_alike {op : Operation} {d : Dialect} {p q : Plan} (alike : p.Alike op d q) :
    (ofPlan p d).map shown = (ofPlan q d).map shown := by
  have located : p.predicate.columns.isEmpty = q.predicate.columns.isEmpty := by
    simpa using congrArg List.isEmpty alike.predicate
  have carried : p.payload.columns.isEmpty = q.payload.columns.isEmpty := by
    simpa using congrArg List.isEmpty alike.payload
  have parameters : p.bound.map Column.parameter = q.bound.map Column.parameter :=
    map_eq_of_map_readBy (fun _ => rfl) alike.bound_readBy
  rw [ofPlan_eq, ofPlan_eq, alike.operation, alike.operation', alike.sourceType, located, carried,
    alike.text_eq]
  split
  · rfl
  split
  · rfl
  · simpa [Except.map, shown, parameterNames, Function.comp_def, Parameter.name] using parameters

end Statement

/-- The arguments of a compilation next to its operation. -/
structure Call where
  shape : Shape := .single
  columns : List Column
  table : Table
  options : Options := {}

namespace Call

/-- The columns are usable, and so is the read limit where there is one. -/
structure Sound (a : Call) : Prop where
  columns : ∀ c ∈ a.columns, c.fault? = none
  limit : a.options.readLimitEnabled = true → a.options.readLimit ≠ 0

/-- Two calls that differ only in what the operation does not read: the timeout and what columns do
not show at any time, and each further argument outside the operations that it is meant for. -/
structure Alike (op : Operation) (a b : Call) : Prop where
  name : a.table.name = b.table.name
  sourceType : a.table.sourceType = b.table.sourceType
  dialect : a.options.dialect = b.options.dialect
  encapsulate : a.options.encapsulate = b.options.encapsulate
  columns : List.Forall₂ (Column.Alike op) a.columns b.columns
  tableAlias : op.showsAlias = true →
    Plan.effectiveAlias a.table a.options = Plan.effectiveAlias b.table b.options
  shape : op = .select → a.shape = b.shape
  bulkLoad : op = .select → a.shape = .collection → a.options.bulkLoad = b.options.bulkLoad
  limited : op = .select → a.options.readLimitEnabled = b.options.readLimitEnabled
  limit : op = .select → a.options.readLimitEnabled = true →
    a.options.readLimit = b.options.readLimit
  dirtyReads : op = .select → a.options.dialect ≠ .postgres →
    a.options.dirtyReads = b.options.dirtyReads

theorem Sound.fault?_eq {a : Call} (sound : a.Sound) :
    Plan.fault? a.columns a.table a.options =
      if Text.isBlank a.table.name then some .blankTableName
      else if hasNul a.table.name then some .nulInTableName
      else if a.columns.isEmpty then some (.noColumns a.table.sourceType)
      else none := by
  have columns : a.columns.findSome? Column.fault? = none :=
    List.findSome?_eq_none_iff.mpr sound.columns
  have limit : (a.options.readLimitEnabled && a.options.readLimit == 0) = false := by
    simpa using sound.limit
  unfold Plan.fault?
  rw [columns, limit]
  rfl

/-- The plan that the call amounts to if its arguments are usable. -/
def plan (op : Operation) (a : Call) : Plan := Plan.assemble op a.shape a.columns a.table a.options

namespace Alike
variable {op : Operation} {a b : Call} (alike : a.Alike op b)
include alike

theorem fault?_eq (first : a.Sound) (second : b.Sound) :
    Plan.fault? a.columns a.table a.options = Plan.fault? b.columns b.table b.options := by
  have empty : a.columns.isEmpty = b.columns.isEmpty := by
    simpa using congrArg List.isEmpty (map_readBy_eq alike.columns)
  rw [first.fault?_eq, second.fault?_eq, alike.name, alike.sourceType, empty]

theorem hint_eq (shows : op.showsAlias = true) :
    Form.hint a.options.dialect.dialect (a.plan op) =
      Form.hint a.options.dialect.dialect (b.plan op) := by
  cases op with
  | delete | insert | update => contradiction
  | «exists» => simp [Form.hint, plan, Plan.assemble]
  | select =>
    by_cases silent : a.options.dialect = .postgres
    · -- A dialect without a hint writes none, whatever is asked of it.
      have none (p : Plan) : Form.hint a.options.dialect.dialect p = "" := by
        rw [silent]
        unfold Form.hint
        split
        · contradiction
        · rfl
      rw [none, none]
    · simp only [Form.hint, plan, Plan.assemble, alike.dirtyReads rfl silent]

theorem plan_alike : (a.plan op).Alike op a.options.dialect.dialect (b.plan op) where
  operation := rfl
  operation' := rfl
  table := alike.name
  sourceType := alike.sourceType
  encapsulate := alike.encapsulate
  predicate := @Routing.predicate_readBy op a.shape b.shape a.columns b.columns a.options.bulkLoad
    b.options.bulkLoad (map_readBy_eq alike.columns) alike.shape
  payload := Routing.payload_readBy (map_readBy_eq alike.columns) alike.shape alike.bulkLoad
  aliasName := alike.tableAlias
  hint := alike.hint_eq
  limit selects := by
    change (if a.options.readLimitEnabled then some a.options.readLimit else none) =
      if b.options.readLimitEnabled then some b.options.readLimit else none
    rw [← alike.limited selects]
    split
    · rw [alike.limit selects ‹_›]
    · rfl

end Alike
end Call

namespace Statement

theorem map_shown_compile (op : Operation) (a : Call) :
    (compile op a.shape a.columns a.table a.options).map shown =
      match Plan.fault? a.columns a.table a.options with
      | some fault => .error (.invalidArgument fault)
      | none => (ofPlan (a.plan op) a.options.dialect.dialect).map shown := by
  rw [compile_eq]
  cases Plan.fault? a.columns a.table a.options with
  | some fault => rfl
  | none =>
    change ((ofPlan (a.plan op) _).map _).map shown = _
    cases ofPlan (a.plan op) a.options.dialect.dialect <;> rfl

/-- Two sound calls that differ only in what the operation does not read come to the same: the same
refusal, or the same text with the same parameters. -/
theorem compile_alike {op : Operation} {a b : Call} (alike : a.Alike op b) (first : a.Sound)
    (second : b.Sound) :
    (compile op a.shape a.columns a.table a.options).map shown =
      (compile op b.shape b.columns b.table b.options).map shown := by
  rw [map_shown_compile, map_shown_compile, alike.fault?_eq first second, alike.dialect.symm,
    ofPlan_alike alike.plan_alike]

/-- A call with nothing set that need not be. -/
def bareCall : Call where
  columns := [{ name := "Id", primaryKey := true }, { name := "Note" }]
  table := { name := "T" }

/-- A call that differs from the bare one in everything that a deletion does not read. -/
def ladenCall : Call where
  shape := .collection
  columns := [{ name := "Id", type := .uuid, direction := .output, primaryKey := true },
    { name := "Note", aliasName := some "n", nullable := true }]
  table := { name := "T", aliasName := some "t" }
  options :=
    { bulkLoad := true, dirtyReads := true, readLimitEnabled := true, readLimit := 10
      tableAlias := some "u", timeout := some (.ofSeconds 30) }

theorem delete_ignores_settings :
    bareCall.Alike .delete ladenCall ∧ bareCall.Sound ∧ ladenCall.Sound ∧
      (compile .delete ladenCall.shape ladenCall.columns ladenCall.table ladenCall.options).map
        shown = .ok ("DELETE FROM T WHERE Id = @Id", ["@Id"]) := by
  have columns : List.Forall₂ (Column.Alike .delete) bareCall.columns ladenCall.columns := by
    refine .cons ?_ (.cons ?_ .nil)
    · constructor <;> simp
    · constructor <;> simp
  have alike : bareCall.Alike .delete ladenCall := by
    constructor
    case columns => exact columns
    case tableAlias => simp [Operation.showsAlias]
    all_goals simp [bareCall, ladenCall]
  have first : bareCall.Sound := ⟨by decide, by decide⟩
  have second : ladenCall.Sound := ⟨by decide, by decide⟩
  refine ⟨alike, first, second, ?_⟩
  rw [← compile_alike alike first second]
  rfl

end Statement
end EntityCrud
