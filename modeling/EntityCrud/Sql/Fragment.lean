import EntityCrud.Plan
/-! Statements before they are spelled. A plan becomes a list of fragments with no dialect
in it: fixed words, names, references to parameters, and the places of hints and limits. A
dialect then spells the list from left to right, numbering the references from one. -/
namespace EntityCrud.Sql

inductive Fragment where
  /-- Text that is the same in every dialect. -/
  | word (text : String)
  | name (text : String)
  /-- A reference to the parameter of a column. -/
  | slot (column : Column)
  /-- A lock hint, where the dialect has one. -/
  | hint
  | limitHead (limit : UInt32)
  | limitTail (limit : UInt32)
  deriving DecidableEq, Repr

namespace Fragment

/-- The lists with a fixed text between each two neighbours. -/
def separated (text : String) (parts : List (List Fragment)) : List Fragment :=
  [.word text].intercalate parts

def equation (c : Column) : List Fragment := [.name c.name, .word " = ", .slot c]

/-- A column of a select, under its alias if it has one. -/
def projection (c : Column) : List Fragment :=
  match c.aliasName with
  | some shown => [.name c.name, .word " AS ", .name shown]
  | none => [.name c.name]

end Fragment

open Fragment

/-- The table that rows are read from, with its alias and its lock hint. -/
def source (plan : Plan) : List Fragment :=
  .name plan.table ::
    (match plan.aliasName with
      | some shown => [.word " AS ", .name shown]
      | none => []) ++
    if plan.dirtyReads then [.hint] else []

/-- The condition: every predicate column equals its parameter. -/
def condition (plan : Plan) : List Fragment :=
  .word " WHERE " :: separated " AND " (plan.predicate.columns.map equation)

def limit (make : UInt32 → Fragment) (plan : Plan) : List Fragment :=
  match plan.readLimit with
  | some limit => [make limit]
  | none => []

def fragments (plan : Plan) : List Fragment :=
  let payload := plan.payload.columns
  match plan.operation with
  | .exists => .word "SELECT 1 FROM " :: source plan ++ condition plan
  | .delete => .word "DELETE FROM " :: .name plan.table :: condition plan
  | .insert =>
    .word "INSERT INTO " :: .name plan.table ::
      .word " (" :: separated ", " (payload.map fun c => [.name c.name]) ++
      .word ") VALUES (" :: separated ", " (payload.map fun c => [.slot c]) ++ [.word ")"]
  | .update =>
    .word "UPDATE " :: .name plan.table ::
      .word " SET " :: separated ", " (payload.map equation) ++ condition plan
  | .select =>
    .word "SELECT " :: limit .limitHead plan ++ separated ", " (payload.map projection) ++
      .word " FROM " :: source plan ++ condition plan ++ limit .limitTail plan

namespace Fragment

/-- The text of the fragments, the first reference to a parameter having the given place. -/
def spell (d : Dialect) (encapsulate : Bool) : Nat → List Fragment → String
  | _, [] => ""
  | place, .word text :: rest => text ++ spell d encapsulate place rest
  | place, .name text :: rest => d.identifier encapsulate text ++ spell d encapsulate place rest
  | place, .slot c :: rest =>
    d.placeholder c.parameter place ++ spell d encapsulate (place + 1) rest
  | place, .hint :: rest =>
    (match d.dirtyReadHint with
      | some text => " " ++ text
      | none => "") ++ spell d encapsulate place rest
  | place, .limitHead limit :: rest => d.limitHead limit ++ spell d encapsulate place rest
  | place, .limitTail limit :: rest => d.limitTail limit ++ spell d encapsulate place rest

/-- The columns whose parameters the fragments refer to, in the order of the references. -/
def slots : List Fragment → List Column
  | [] => []
  | .slot c :: rest => c :: slots rest
  | _ :: rest => slots rest

end Fragment
end EntityCrud.Sql
