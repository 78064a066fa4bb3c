import EntityCrud.Proofs.StatementForm
import EntityCrud.Statement
/-! Spelling gives the form. The fragments of a plan are spelled part by part, each reference
taking the next place, and what results is the form of the plan's operation in every dialect. -/
namespace EntityCrud
open Sql (Dialect Fragment)

namespace Sql.Fragment

section
variable (d : Dialect) (encapsulate : Bool)

@[simp]
theorem slots_append (before after : List Fragment) :
    slots (before ++ after) = slots before ++ slots after := by
  induction before with
  | nil => rfl
  | cons f rest ih => cases f <;> simp [slots, ih]

theorem spell_append (place : Nat) (before after : List Fragment) :
    spell d encapsulate place (before ++ after) =
      spell d encapsulate place before ++
        spell d encapsulate (place + (slots before).length) after := by
  induction before generalizing place with
  | nil => simp [spell, slots]
  | cons f rest ih =>
    cases f
    case slot c =>
      simp only [List.cons_append, spell, slots, List.length_cons, ih, String.append_assoc,
        Nat.add_assoc, Nat.add_comm 1]
    all_goals simp only [List.cons_append, spell, slots, ih, String.append_assoc]

@[simp]
theorem separated_cons_cons (text : String) (first second : List Fragment)
    (rest : List (List Fragment)) :
    separated text (first :: second :: rest) =
      first ++ .word text :: separated text (second :: rest) := by
  simp [separated, List.intercalate_cons_cons]

/-- What is gathered from fragments one after the other, and from no word, is gathered from each part
of a list. -/
theorem gathered_separated {α : Type} {gather : List Fragment → List α} {text : String}
    (nothing : gather [] = []) (word : ∀ rest, gather (.word text :: rest) = gather rest)
    (append : ∀ front back, gather (front ++ back) = gather front ++ gather back)
    (parts : List (List Fragment)) : gather (separated text parts) = parts.flatMap gather := by
  induction parts with
  | nil => exact nothing
  | cons first rest ih =>
    cases rest with
    | nil => simp [separated]
    | cons second rest =>
      rw [separated_cons_cons, append, word, ih]
      rfl

theorem slots_separated (text : String) (parts : List (List Fragment)) :
    slots (separated text parts) = parts.flatMap slots :=
  gathered_separated rfl (fun _ => rfl) slots_append parts

theorem slots_separated_each {part : Column → List Fragment} (single : ∀ c, slots (part c) = [c])
    (text : String) (columns : List Column) :
    slots (separated text (columns.map part)) = columns := by
  simp [slots_separated, List.flatMap_map, single]

theorem slots_separated_none {part : Column → List Fragment} (none : ∀ c, slots (part c) = [])
    (text : String) (columns : List Column) :
    slots (separated text (columns.map part)) = [] := by
  rw [slots_separated, List.flatMap_map, List.flatMap_eq_nil_iff]
  exact fun c _ => none c

/-- Parts with one reference each are spelled at consecutive places. -/
theorem spell_separated {part : Column → List Fragment} {shown : Column × Nat → String}
    (single : ∀ c, slots (part c) = [c])
    (spelled : ∀ c place, spell d encapsulate place (part c) = shown (c, place))
    (text : String) (place : Nat) (columns : List Column) :
    spell d encapsulate place (separated text (columns.map part)) =
      text.intercalate ((columns.zipIdx place).map shown) := by
  induction columns generalizing place with
  | nil => rfl
  | cons first rest ih =>
    cases rest with
    | nil => simp [separated, spelled]
    | cons second rest =>
      rw [List.map_cons, List.map_cons, separated_cons_cons, spell_append, spelled, single, spell,
        ← List.map_cons, List.length_singleton, ih]
      simp [List.zipIdx_cons, String.append_assoc]

/-- Parts without references are spelled alike at every place. -/
theorem spell_separated_fixed {part : Column → List Fragment} {shown : Column → String}
    (none : ∀ c, slots (part c) = [])
    (spelled : ∀ c place, spell d encapsulate place (part c) = shown c)
    (text : String) (place : Nat) (columns : List Column) :
    spell d encapsulate place (separated text (columns.map part)) =
      text.intercalate (columns.map shown) := by
  induction columns with
  | nil => rfl
  | cons first rest ih =>
    cases rest with
    | nil => simp [separated, spelled]
    | cons second rest =>
      rw [List.map_cons, List.map_cons, separated_cons_cons, spell_append, spelled, none, spell,
        ← List.map_cons, List.length_nil, Nat.add_zero, ih]
      simp [String.append_assoc]

theorem spell_equations (text : String) (place : Nat) (columns : List Column) :
    spell d encapsulate place (separated text (columns.map equation)) =
      text.intercalate ((columns.zipIdx place).map (Form.equation d encapsulate)) := by
  refine spell_separated d _ (fun _ => rfl) (fun c place => ?_) _ _ _
  simp [equation, spell, Form.equation, Form.mark, String.append_assoc]

theorem slots_marks (text : String) (columns : List Column) :
    slots (separated text (columns.map fun c => [.slot c])) = columns :=
  slots_separated_each (fun _ => rfl) _ _

theorem spell_marks (text : String) (place : Nat) (columns : List Column) :
    spell d encapsulate place (separated text (columns.map fun c => [.slot c])) =
      text.intercalate ((columns.zipIdx place).map (Form.mark d)) := by
  refine spell_separated d _ (fun _ => rfl) (fun c place => ?_) _ _ _
  simp [spell, Form.mark]

theorem slots_names (text : String) (columns : List Column) :
    slots (separated text (columns.map fun c => [.name c.name])) = [] :=
  slots_separated_none (fun _ => rfl) _ _

theorem spell_names (text : String) (place : Nat) (columns : List Column) :
    spell d encapsulate place (separated text (columns.map fun c => [.name c.name])) =
      text.intercalate (columns.map fun c => d.identifier encapsulate c.name) := by
  refine spell_separated_fixed d _ (fun _ => rfl) (fun c place => ?_) _ _ _
  simp [spell]

theorem slots_projection (c : Column) : slots (projection c) = [] := by
  unfold projection
  split <;> rfl

theorem spell_projections (text : String) (place : Nat) (columns : List Column) :
    spell d encapsulate place (separated text (columns.map projection)) =
      text.intercalate (columns.map (Form.projection d encapsulate)) := by
  refine spell_separated_fixed d _ slots_projection (fun c place => ?_) _ _ _
  unfold projection Form.projection
  cases c.aliasName <;> simp [spell, Form.shownAs]

end

section
variable (d : Dialect) (plan : Plan)

theorem slots_condition : slots (condition plan) = plan.predicate.columns := by
  exact slots_separated_each (fun _ => rfl) _ _

theorem spell_condition (place : Nat) :
    spell d plan.encapsulate place (condition plan) =
      Form.condition d plan.encapsulate (plan.predicate.columns.zipIdx place) := by
  rw [condition, spell, spell_equations]
  rfl

theorem slots_source : slots (source plan) = [] := by
  unfold source
  cases plan.aliasName <;> cases plan.dirtyReads <;> rfl

theorem spell_source (place : Nat) :
    spell d plan.encapsulate place (source plan) = Form.source d plan := by
  unfold source Form.source Form.hint
  cases plan.aliasName <;> cases plan.dirtyReads <;> cases hinted : d.dirtyReadHint <;>
    simp [spell, Form.table, Form.shownAs, hinted, String.append_assoc]

theorem slots_limit (make : UInt32 → Fragment) (bare : ∀ n, slots [make n] = []) :
    slots (limit make plan) = [] := by
  unfold limit
  cases plan.readLimit with
  | none => rfl
  | some n => exact bare n

theorem spell_limit {make : UInt32 → Fragment} {write : UInt32 → String} (place : Nat)
    (spelled : ∀ n, spell d plan.encapsulate place [make n] = write n) :
    spell d plan.encapsulate place (limit make plan) = Form.limit plan write := by
  unfold limit Form.limit
  cases plan.readLimit with
  | none => rfl
  | some n => exact spelled n

end

section
variable (d : Dialect) (plan : Plan)

/-- The fragments before the condition. -/
def before : List Fragment :=
  match plan.operation with
  | .exists => .word "SELECT 1 FROM " :: source plan
  | .delete => [.word "DELETE FROM ", .name plan.table]
  | .update =>
    .word "UPDATE " :: .name plan.table ::
      .word " SET " :: separated ", " (plan.payload.columns.map equation)
  | .select =>
    .word "SELECT " :: limit .limitHead plan ++
      separated ", " (plan.payload.columns.map projection) ++ .word " FROM " :: source plan
  | .insert => []

/-- The fragments after the condition. -/
def after : List Fragment :=
  match plan.operation with
  | .select => limit .limitTail plan
  | _ => []

theorem fragments_eq (conditional : plan.operation ≠ .insert) :
    fragments plan = before plan ++ condition plan ++ after plan := by
  unfold fragments before after
  cases op : plan.operation <;> simp_all

theorem slots_before (conditional : plan.operation ≠ .insert) :
    slots (before plan) = plan.assigned := by
  unfold before Plan.assigned
  cases op : plan.operation
  case insert => contradiction
  case update => exact slots_separated_each (fun _ => rfl) _ _
  case select =>
    simp only [slots, slots_append, slots_limit plan .limitHead fun _ => rfl,
      slots_separated_none slots_projection, slots_source, List.append_nil]
  all_goals simp [slots, slots_source]

theorem spell_before (conditional : plan.operation ≠ .insert) :
    spell d plan.encapsulate 1 (before plan) = Form.lead d plan (plan.assigned.zipIdx 1) := by
  unfold before Form.lead Plan.assigned
  cases op : plan.operation
  case insert => contradiction
  case update => simp [spell, spell_equations, Form.table, String.append_assoc]
  case select =>
    have top : spell d plan.encapsulate 1 (limit .limitHead plan) = Form.limit plan d.limitHead :=
      spell_limit d plan 1 fun n => by simp [spell]
    simp only [spell, spell_append, spell_projections, spell_source, top, String.append_assoc]
  all_goals simp [spell, spell_source, Form.table]

theorem spell_after (place : Nat) :
    spell d plan.encapsulate place (after plan) = Form.trail d plan := by
  unfold after Form.trail
  cases plan.operation
  case select => exact spell_limit d plan place fun n => by simp [spell]
  all_goals rfl

/-- The references in a statement are to the parameters it carries, in their order. -/
theorem slots_fragments : slots (fragments plan) = plan.bound := by
  by_cases inserts : plan.operation = .insert
  · unfold fragments Plan.bound
    simp [inserts, slots, slots_names, slots_marks]
  · have tail : slots (after plan) = [] := by
      unfold after
      cases plan.operation
      case select => exact slots_limit plan .limitTail fun _ => rfl
      all_goals rfl
    rw [fragments_eq plan inserts, slots_append, slots_append, slots_before plan inserts,
      slots_condition, tail, List.append_nil, Plan.bound_eq inserts]

theorem spell_fragments :
    spell d plan.encapsulate 1 (fragments plan) = Form.text d plan (plan.bound.zipIdx 1) := by
  by_cases inserts : plan.operation = .insert
  · have names : (plan.payload.columns.zipIdx 1).map
          (fun b => d.identifier plan.encapsulate b.1.name) =
        plan.payload.columns.map fun c => d.identifier plan.encapsulate c.name := by
      conv => rhs; rw [← List.zipIdx_map_fst 1 plan.payload.columns, List.map_map]
      rfl
    unfold fragments Form.text Plan.bound Form.insertion
    simp only [inserts, spell, spell_append, spell_names, spell_marks, slots_names,
      List.cons_append, List.length_nil, Nat.add_zero, Form.inserted, names, Form.table,
      String.append_assoc, String.append_empty]
  · rw [fragments_eq plan inserts, spell_append, spell_append, slots_append,
      slots_before plan inserts, spell_before d plan inserts, spell_condition, spell_after,
      Form.text_eq inserts]

end
end Sql.Fragment
end EntityCrud
