import EntityCrud.Plan
/-! The forms of statements. Each operation has one form, in which the references to
parameters stand in the order of the parameter list and are numbered in that order. What a
dialect decides enters a form only through the dialect's own texts. -/
namespace EntityCrud
open Sql (Dialect)

/-- The columns whose parameters a statement of the plan carries, in their order. -/
def Plan.bound (plan : Plan) : List Column :=
  match plan.operation with
  | .insert => plan.payload.columns
  | .update => plan.payload.columns ++ plan.predicate.columns
  | .exists | .delete | .select => plan.predicate.columns

/-- The columns that a statement of the plan sets before its condition. -/
def Plan.assigned (plan : Plan) : List Column :=
  match plan.operation with
  | .update => plan.payload.columns
  | _ => []

theorem Plan.bound_eq {plan : Plan} (conditional : plan.operation ≠ .insert) :
    plan.bound = plan.assigned ++ plan.predicate.columns := by
  unfold bound assigned
  cases op : plan.operation <;> simp_all

/-- What is distinct among the columns of a routing is distinct among those of a statement. -/
theorem Plan.nodup_map_bound {α : Type} {plan : Plan} {f : Column → α}
    (distinct : ((plan.predicate.columns ++ plan.payload.columns).map f).Nodup) :
    (plan.bound.map f).Nodup := by
  unfold bound
  cases plan.operation with
  | insert => exact distinct.sublist ((List.sublist_append_right _ _).map f)
  | update => exact (List.perm_append_comm.map f).nodup distinct
  | «exists» | delete | select => exact distinct.sublist ((List.sublist_append_left _ _).map f)

namespace Form

section
variable (d : Dialect) (encapsulate : Bool)

/-- The reference to the parameter of a column with the given place. -/
def mark (b : Column × Nat) : String := d.placeholder b.1.parameter b.2

def equation (b : Column × Nat) : String := d.identifier encapsulate b.1.name ++ " = " ++ mark d b

def condition (bound : List (Column × Nat)) : String :=
  " WHERE " ++ " AND ".intercalate (bound.map (equation d encapsulate))

/-- What an alias adds to a name. -/
def shownAs : Option String → String
  | some shown => " AS " ++ d.identifier encapsulate shown
  | none => ""

def projection (c : Column) : String :=
  d.identifier encapsulate c.name ++ shownAs d encapsulate c.aliasName

end

section
variable (d : Dialect) (plan : Plan)

def table : String := d.identifier plan.encapsulate plan.table

def hint : String :=
  match plan.dirtyReads, d.dirtyReadHint with
  | true, some text => " " ++ text
  | _, _ => ""

/-- The table that rows are read from. -/
def source : String := table d plan ++ shownAs d plan.encapsulate plan.aliasName ++ hint d plan

def limit (write : UInt32 → String) : String :=
  match plan.readLimit with
  | some n => write n
  | none => ""

/-- The columns of an insert, and after them the marks of the same columns. -/
def inserted (bound : List (Column × Nat)) : String :=
  ", ".intercalate (bound.map fun b => d.identifier plan.encapsulate b.1.name) ++
    ") VALUES (" ++ ", ".intercalate (bound.map (mark d))

def insertion (bound : List (Column × Nat)) : String :=
  "INSERT INTO " ++ table d plan ++ " (" ++ inserted d plan bound ++ ")"

/-- What stands before the condition; an update sets the columns of the payload there. -/
def lead (bound : List (Column × Nat)) : String :=
  match plan.operation with
  | .exists => "SELECT 1 FROM " ++ source d plan
  | .delete => "DELETE FROM " ++ table d plan
  | .update =>
    "UPDATE " ++ table d plan ++
      " SET " ++ ", ".intercalate (bound.map (equation d plan.encapsulate))
  | .select =>
    "SELECT " ++ limit plan d.limitHead ++
      ", ".intercalate (plan.payload.columns.map (projection d plan.encapsulate)) ++
      " FROM " ++ source d plan
  | .insert => ""

/-- What stands after the condition. -/
def trail : String :=
  match plan.operation with
  | .select => limit plan d.limitTail
  | _ => ""

/-- The whole statement, given its columns with the places of their parameters. -/
def text (bound : List (Column × Nat)) : String :=
  match plan.operation with
  | .insert => insertion d plan bound
  | _ =>
    lead d plan (bound.take plan.assigned.length) ++
      condition d plan.encapsulate (bound.drop plan.assigned.length) ++ trail d plan

end

theorem text_eq {d : Dialect} {plan : Plan} (conditional : plan.operation ≠ .insert) :
    text d plan (plan.bound.zipIdx 1) =
      lead d plan (plan.assigned.zipIdx 1) ++
        condition d plan.encapsulate
          (plan.predicate.columns.zipIdx (1 + plan.assigned.length)) ++ trail d plan := by
  have cut : plan.assigned.length = (plan.assigned.zipIdx 1).length := List.length_zipIdx.symm
  rw [Plan.bound_eq conditional, List.zipIdx_append]
  unfold text
  split
  · contradiction
  · rw [List.take_left' cut.symm, List.drop_left' cut.symm]

end Form

end EntityCrud
