import EntityCrud.Proofs.Compilation
import EntityCrud.Proofs.RoutingTable
import Mathlib.Logic.Function.Basic
/-! Values in a statement. Binding fills every parameter by the name of its column and forgets what
was bound before, so that a statement can be bound again and again. -/
namespace EntityCrud

namespace Statement

def bindAll (s : Statement) (rounds : List (String → Option Value)) : Statement :=
  rounds.foldl bind s

section
variable (s : Statement) (values : String → Option Value)

theorem bind_bind (later : String → Option Value) : (s.bind values).bind later = s.bind later := by
  simp only [bind, List.map_map]
  rfl

theorem bindAll_concat (earlier : List (String → Option Value)) :
    s.bindAll (earlier ++ [values]) = s.bind values := by
  induction earlier generalizing s with
  | nil => rfl
  | cons first rest ih => exact (ih (s.bind first)).trans (s.bind_bind first values)

theorem columns_bind :
    (s.bind values).parameters.map Parameter.column = s.parameters.map Parameter.column := by
  simp only [bind, List.map_map]
  rfl

theorem values_bind :
    (s.bind values).parameters.map Parameter.value =
      s.parameters.map fun p => (values p.column.name).getD .null := by
  simp only [bind, List.map_map]
  rfl

theorem parameter_bind (i : Nat) :
    (s.bind values).parameters[i]? =
      s.parameters[i]?.map fun p => { p with value := (values p.column.name).getD .null } :=
  List.getElem?_map

end

theorem parameter_bind_update {s : Statement} {i : Nat} {name : String}
    (other : s.parameters[i]?.map (fun p => p.column.name) ≠ some name)
    (values : String → Option Value) (value : Option Value) :
    (s.bind (Function.update values name value)).parameters[i]? =
      (s.bind values).parameters[i]? := by
  rw [parameter_bind, parameter_bind]
  cases found : s.parameters[i]? with
  | none => rfl
  | some p =>
    have different : p.column.name ≠ name := by simpa [found] using other
    simp only [Option.map_some, Function.update_of_ne different]

theorem bind_update_one {s : Statement}
    (distinct : (s.parameters.map fun p => p.column.name).Nodup)
    (values : String → Option Value) (name : String) (value : Option Value) :
    ∃ place : Nat, ∀ i ≠ place, (s.bind (Function.update values name value)).parameters[i]? =
      (s.bind values).parameters[i]? := by
  let names := s.parameters.map fun p => p.column.name
  refine ⟨names.idxOf name, fun i other => parameter_bind_update ?_ values value⟩
  rw [← List.getElem?_map]
  intro here
  obtain ⟨inside, named⟩ := List.getElem?_eq_some_iff.mp here
  apply other
  rw [← named, distinct.idxOf_getElem]

section
variable {op : Operation} {shape : Shape} {columns : List Column} {table : Table}
  {options : Options} {s : Statement} (compiled : compile op shape columns table options = .ok s)
include compiled

theorem parameters_of_compiled :
    s.parameters = (Plan.assemble op shape columns table options).bound.map
      fun column => { column } := by
  obtain ⟨_, _, _, rfl⟩ := compile_eq_form_iff.mp compiled
  rfl

theorem names_nodup_of_compiled : (s.parameters.map fun p => p.column.name).Nodup := by
  rw [parameters_of_compiled compiled, List.map_map]
  exact Plan.nodup_map_bound (@Routing.names_nodup op shape columns options.bulkLoad)

end

/-- A compiled statement holds nulls, one for each of its columns. Whatever has been bound to it in
earlier rounds, the last round alone decides its values, column by column, and nothing else of it
changes. An entry of the values fills one place at most. -/
theorem bindAll_compiled {op : Operation} {shape : Shape} {columns : List Column} {table : Table}
    {options : Options} {s : Statement}
    (compiled : compile op shape columns table options = .ok s) :
    (∀ p ∈ s.parameters, p.value = .null) ∧
      (s.parameters.map fun p => p.column.name).Nodup ∧
      ∀ (earlier : List (String → Option Value)) (last : String → Option Value),
        let bound := s.bindAll (earlier ++ [last])
        bound = s.bind last ∧ bound.sql = s.sql ∧ bound.timeout = s.timeout ∧
          bound.parameters.map Parameter.column = s.parameters.map Parameter.column ∧
          (bound.parameters.map Parameter.value =
            s.parameters.map fun p => (last p.column.name).getD .null) ∧
          ∀ name value, ∃ place : Nat, ∀ i ≠ place,
            (s.bind (Function.update last name value)).parameters[i]? = bound.parameters[i]? := by
  have distinct := names_nodup_of_compiled compiled
  refine ⟨?_, distinct, ?_⟩
  · rw [parameters_of_compiled compiled]
    intro p member
    obtain ⟨_, _, rfl⟩ := List.mem_map.mp member
    rfl
  · intro earlier last bound
    have once : bound = s.bind last := s.bindAll_concat last earlier
    rw [once]
    exact ⟨rfl, rfl, rfl, s.columns_bind last, s.values_bind last, bind_update_one distinct last⟩

/-- A name that the first round gives and the second one does not, and one that belongs to a
parameter and to no column. -/
theorem update_bound_twice : ∃ s,
    compile .update .single [{ name := "Id", primaryKey := true },
        { name := "Name", parameter := "@Title" }, { name := "Size" }] { name := "T" } {} = .ok s ∧
      (s.bindAll [fun name => [("Name", Value.text "first"), ("Id", .bool true)].lookup name,
          fun name => [("@Title", Value.text "second"), ("Size", .int32 7),
            ("Id", .int32 1)].lookup name]).parameters.map Parameter.value =
        [.null, .int32 7, .int32 1] := by
  have compiled : compile .update .single [{ name := "Id", primaryKey := true },
    { name := "Name", parameter := "@Title" }, { name := "Size" }] { name := "T" } {} = .ok _ := rfl
  obtain ⟨_, _, rounds⟩ := bindAll_compiled compiled
  obtain ⟨_, _, _, _, values, _⟩ := rounds [_] _
  exact ⟨_, compiled, values⟩

end Statement
end EntityCrud
