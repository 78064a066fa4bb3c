import EntityCrud.Sql.Fragment
import EntityCrud.Value
/-! Statements: SQL text and its parameters in the order of the references to them. A newly
compiled statement has every parameter bound to null. -/
namespace EntityCrud
open Sql (Dialect)

/-- A column's parameter with the value bound to it. -/
structure Parameter where
  column : Column
  value : Value := .null
  deriving Inhabited

namespace Parameter

def name (p : Parameter) : String := p.column.parameter

end Parameter

structure Statement where
  sql : String
  parameters : List Parameter
  timeout : Option Timeout := none
  deriving Inhabited

namespace Statement

def parameterNames (s : Statement) : List String := s.parameters.map Parameter.name

/-- Binds to each parameter the value of its column, and null where there is none. What was
bound before is forgotten. -/
def bind (s : Statement) (values : String → Option Value) : Statement :=
  { s with parameters := s.parameters.map fun p =>
      { p with value := (values p.column.name).getD .null } }

/-- The statement of a plan, spelled in a dialect. A plan that locates no rows although its
operation has to, or that has no data to carry, is refused. -/
def ofPlan (plan : Plan) (d : Dialect) : Except Refusal Statement :=
  if plan.operation.requiresPredicate && plan.predicate.isEmpty then
    .error (.missingPredicate plan.operation plan.sourceType)
  else if plan.operation.requiresPayload && plan.payload.isEmpty then
    .error (.missingPayload plan.operation plan.sourceType)
  else
    let fragments := Sql.fragments plan
    .ok {
      sql := Sql.Fragment.spell d plan.encapsulate 1 fragments
      parameters := (Sql.Fragment.slots fragments).map fun column => { column } }

def compile (op : Operation) (shape : Shape) (columns : List Column) (table : Table)
    (options : Options) : Except Refusal Statement := do
  let plan ← Plan.build op shape columns table options
  let statement ← ofPlan plan options.dialect.dialect
  return { statement with timeout := options.timeout }

end Statement

/-- What a compilation reports to the log. -/
inductive CompileEvent where
  | compiled (operation : Operation) (shape : Shape) (table dialect : String)
    (parameters : Nat) (sql : String)
  | failed (operation : Operation) (shape : Shape) (sourceType : String) (cause : Refusal)
  deriving DecidableEq, Repr

namespace CompileEvent

def level : CompileEvent → String
  | .compiled .. => "DEBUG"
  | .failed .. => "WARN"

def message : CompileEvent → String
  | .compiled .. => "compiled statement"
  | .failed .. => "compile failed"

def line (event : CompileEvent) : String :=
  event.level ++ " " ++ event.message ++
    match event with
    | .compiled op shape table dialect count sql =>
      s!" operation={op.name} shape={shape.name} table={table} dialect={dialect}" ++
        s!" params={count} sql={sql}"
    | .failed op shape sourceType cause =>
      s!" operation={op.name} shape={shape.name} source_type={sourceType} error={cause.message}"

/-- The one event of a compilation with this outcome. -/
def ofOutcome (op : Operation) (shape : Shape) (table : Table) (options : Options) :
    Except Refusal Statement → CompileEvent
  | .ok statement =>
    .compiled op shape table.name options.dialect.dialect.name statement.parameters.length
      statement.sql
  | .error cause => .failed op shape table.sourceType cause

end CompileEvent
end EntityCrud
