import EntityCrud.Proofs.Spelling
import EntityCrud.Proofs.RoutedColumns
/-! What a compilation yields. A plan that locates its rows and has its data is rendered in
the form of its operation; a compilation renders the plan of usable arguments. -/
namespace EntityCrud
open Sql (Dialect Fragment)

theorem Column.fault?_eq_none_iff {c : Column} :
    c.fault? = none ↔
      Text.isBlank c.name = false ∧ hasNul c.name = false ∧ isParameterName c.parameter = true ∧
        ∀ shown ∈ c.aliasName, Text.isBlank shown = false ∧ hasNul shown = false := by
  have shown : (c.aliasName.any fun a => Text.isBlank a || hasNul a) = false ↔
      ∀ shown ∈ c.aliasName, Text.isBlank shown = false ∧ hasNul shown = false := by
    simp [Option.any_eq_false]
  rw [← shown]
  unfold fault?
  cases Text.isBlank c.name <;> cases hasNul c.name <;> cases isParameterName c.parameter <;> simp

theorem Plan.fault?_eq_none_iff {columns : List Column} {table : Table} {options : Options} :
    fault? columns table options = none ↔
      Text.isBlank table.name = false ∧ hasNul table.name = false ∧ columns ≠ [] ∧
        (∀ c ∈ columns, c.fault? = none) ∧
        (options.readLimitEnabled = true → options.readLimit ≠ 0) := by
  have listed : columns.isEmpty = false ↔ columns ≠ [] := List.isEmpty_eq_false_iff
  have limit : (options.readLimitEnabled && options.readLimit == 0) = false ↔
      (options.readLimitEnabled = true → options.readLimit ≠ 0) := by
    simp
  rw [← listed, ← List.findSome?_eq_none_iff, ← limit]
  unfold fault?
  cases Text.isBlank table.name <;> cases hasNul table.name <;> cases columns.isEmpty <;>
    cases columns.findSome? Column.fault? <;> simp

theorem Plan.mem_of_placed {op : Operation} {shape : Shape} {columns : List Column} {table : Table}
    {options : Options} {c : Column}
    (placed : c ∈ (assemble op shape columns table options).predicate.columns ++
      (assemble op shape columns table options).payload.columns) : c ∈ columns := by
  rcases List.mem_append.mp placed with key | data
  · exact @Routing.mem_of_mem_predicate op shape columns options.bulkLoad c key
  · exact (@Routing.of_mem_payload op shape columns options.bulkLoad c data).1

theorem Plan.fault?_of_placed {op : Operation} {shape : Shape} {columns : List Column}
    {table : Table} {options : Options} (usable : fault? columns table options = none) {c : Column}
    (placed : c ∈ (assemble op shape columns table options).predicate.columns ++
      (assemble op shape columns table options).payload.columns) : c.fault? = none := by
  obtain ⟨_, _, _, sound, _⟩ := fault?_eq_none_iff.mp usable
  exact sound c (mem_of_placed placed)

namespace Statement

/-- The outcome of a plan, in the form of its operation. -/
theorem ofPlan_eq (plan : Plan) (d : Dialect) :
    ofPlan plan d =
      if plan.operation.requiresPredicate && plan.predicate.columns.isEmpty then
        .error (.missingPredicate plan.operation plan.sourceType)
      else if plan.operation.requiresPayload && plan.payload.columns.isEmpty then
        .error (.missingPayload plan.operation plan.sourceType)
      else .ok {
        sql := Form.text d plan (plan.bound.zipIdx 1)
        parameters := plan.bound.map fun column => { column } } := by
  rw [← Sql.Fragment.spell_fragments d plan, ← Sql.Fragment.slots_fragments plan]
  rfl

theorem ofPlan_eq_ok_iff {plan : Plan} {d : Dialect} {s : Statement} :
    ofPlan plan d = .ok s ↔
      (plan.operation.requiresPredicate = true → plan.predicate.columns ≠ []) ∧
      (plan.operation.requiresPayload = true → plan.payload.columns ≠ []) ∧
      s = { sql := Form.text d plan (plan.bound.zipIdx 1)
            parameters := plan.bound.map fun column => { column } } := by
  rw [ofPlan_eq]
  cases plan.operation.requiresPredicate <;> cases plan.operation.requiresPayload <;>
    simp [List.isEmpty_iff] <;> grind

/-- A compilation renders the plan of usable arguments; the timeout is added to what is rendered. -/
theorem compile_eq (op : Operation) (shape : Shape) (columns : List Column) (table : Table)
    (options : Options) :
    compile op shape columns table options =
      match Plan.fault? columns table options with
      | some fault => .error (.invalidArgument fault)
      | none =>
        (ofPlan (Plan.assemble op shape columns table options) options.dialect.dialect).map
          fun rendered => { rendered with timeout := options.timeout } := by
  unfold compile Plan.build
  cases Plan.fault? columns table options <;> rfl

theorem compile_eq_ok_iff {op : Operation} {shape : Shape} {columns : List Column}
    {table : Table} {options : Options} {s : Statement} :
    compile op shape columns table options = .ok s ↔
      Plan.fault? columns table options = none ∧
      ∃ rendered, ofPlan (Plan.assemble op shape columns table options)
          options.dialect.dialect = .ok rendered ∧
        s = { rendered with timeout := options.timeout } := by
  rw [compile_eq]
  cases Plan.fault? columns table options with
  | some fault => simp
  | none =>
    cases ofPlan (Plan.assemble op shape columns table options) options.dialect.dialect with
    | error cause => simp [Except.map]
    | ok rendered => simp [Except.map, eq_comm]

/-- The statement of usable arguments, in the form of its operation. -/
theorem compile_eq_form_iff {op : Operation} {shape : Shape} {columns : List Column}
    {table : Table} {options : Options} {s : Statement} :
    let plan := Plan.assemble op shape columns table options
    compile op shape columns table options = .ok s ↔
      Plan.fault? columns table options = none ∧
      (op.requiresPredicate = true → plan.predicate.columns ≠ []) ∧
      (op.requiresPayload = true → plan.payload.columns ≠ []) ∧
      s = { sql := Form.text options.dialect.dialect plan (plan.bound.zipIdx 1)
            parameters := plan.bound.map fun column => { column }
            timeout := options.timeout } := by
  intro plan
  rw [compile_eq_ok_iff]
  constructor
  · rintro ⟨usable, _, rendered, rfl⟩
    obtain ⟨located, carried, rfl⟩ := ofPlan_eq_ok_iff.mp rendered
    exact ⟨usable, located, carried, rfl⟩
  · rintro ⟨usable, located, carried, rfl⟩
    exact ⟨usable, _, ofPlan_eq_ok_iff.mpr ⟨located, carried, rfl⟩, rfl⟩

/-- Apart from the loading of collections, neither the shape nor bulk loading matters. -/
theorem compile_eq_single {op : Operation} {shape : Shape}
    (plain : op = .select → shape = .single) (columns : List Column) (table : Table)
    (options : Options) :
    compile op shape columns table options =
      compile op .single columns table { options with bulkLoad := false } := by
  have routed : Routing.ofColumns op shape columns options.bulkLoad =
      Routing.ofColumns op .single columns false := by
    cases op
    case select =>
      rw [plain rfl]
      rfl
    all_goals rfl
  rw [compile_eq, compile_eq]
  simp only [Plan.assemble, routed]
  rfl

/-- Parameters and references agree one by one, whatever the dialect: the list of parameters is
that of the plan, and the references of the text are to its members in their order, each with
the member's place counted from one. -/
theorem ofPlan_binds_by_place {plan : Plan} {d : Dialect} {s : Statement}
    (rendered : ofPlan plan d = .ok s) :
    s.parameters = (plan.bound.map fun column => { column }) ∧
      s.sql = Form.text d plan ((s.parameters.map Parameter.column).zipIdx 1) := by
  obtain ⟨_, _, rfl⟩ := ofPlan_eq_ok_iff.mp rendered
  refine ⟨rfl, ?_⟩
  rw [List.map_map]
  simp [Function.comp_def]

/-- A dialect that shows both the name and the place of a parameter. -/
def angled : Dialect where
  name := "angled"
  quoted part := "<" ++ part ++ ">"
  placeholder parameter place := toString place ++ parameter

theorem update_binds_by_place : ∃ s,
    ofPlan (Plan.assemble .update .single
        [{ name := "Id", primaryKey := true }, { name := "Name" }, { name := "Code" }]
        { name := "dbo.T" } { encapsulate := true }) angled = .ok s ∧
      s.parameters.map Parameter.name = ["@Name", "@Code", "@Id"] ∧
      s.sql = "UPDATE <dbo>.<T> SET <Name> = 1@Name, <Code> = 2@Code WHERE <Id> = 3@Id" := by
  have rendered : ofPlan (Plan.assemble .update .single
      [{ name := "Id", primaryKey := true }, { name := "Name" }, { name := "Code" }]
      { name := "dbo.T" } { encapsulate := true }) angled = .ok _ := rfl
  have bound := ofPlan_binds_by_place rendered
  exact ⟨_, rendered, congrArg (List.map Parameter.name) bound.1, bound.2⟩

end Statement
end EntityCrud
