import EntityCrud.Proofs.Compilation
import EntityCrud.Proofs.RoutingTable
/-! Objections: all that is wrong with the arguments of a compilation, said of the arguments as
they are given, in the order in which it is looked for. A compilation fails with the first
objection, and arguments without one compile. -/
namespace EntityCrud

/-- The cause, where the condition holds. -/
def objection (condition : Prop) [Decidable condition] (cause : Refusal) : List Refusal :=
  if condition then [cause] else []

theorem head?_objection (condition : Prop) [Decidable condition] (cause : Refusal) :
    (objection condition cause).head? = if condition then some cause else none := by
  unfold objection
  split <;> rfl

/-- What stands after an objection counts where the objection does not hold. -/
theorem head?_objection_append (condition : Prop) [Decidable condition] (cause : Refusal)
    (rest : List Refusal) :
    (objection condition cause ++ rest).head? = if condition then some cause else rest.head? := by
  unfold objection
  split <;> rfl

theorem objection_congr {condition other : Prop} [Decidable condition] [Decidable other]
    (same : condition ↔ other) (cause : Refusal) :
    objection condition cause = objection other cause := by
  unfold objection
  simp only [same]

namespace Text

/-- A text of blanks only, or of nothing. -/
def Blank (s : String) : Prop := ∀ c ∈ s.toList, isBlankChar c = true

def HasNul (s : String) : Prop := '\x00' ∈ s.toList

def IsLetter (c : Char) : Prop := 'A' ≤ c ∧ c ≤ 'Z' ∨ 'a' ≤ c ∧ c ≤ 'z'

def IsDigit (c : Char) : Prop := '0' ≤ c ∧ c ≤ '9'

/-- `@`, a letter or an underscore, and then letters, digits and underscores. -/
def IsParameter (s : String) : Prop :=
  ∃ first rest, s.toList = '@' :: first :: rest ∧ (IsLetter first ∨ first = '_') ∧
    ∀ c ∈ rest, IsLetter c ∨ IsDigit c ∨ c = '_'

theorem isBlank_iff {s : String} : isBlank s = true ↔ Blank s := List.all_eq_true

theorem hasNul_iff {s : String} : hasNul s = true ↔ HasNul s := List.contains_iff_mem

theorem isAlpha_iff {c : Char} : c.isAlpha = true ↔ IsLetter c := by
  have bounds : c.isAlpha =
      (decide ('A' ≤ c ∧ c ≤ 'Z') || decide ('a' ≤ c) && decide (c ≤ 'z')) := rfl
  rw [bounds]
  simp only [IsLetter, Bool.or_eq_true, Bool.and_eq_true, decide_eq_true_eq]

theorem isWordStart_iff {c : Char} : isWordStart c = true ↔ IsLetter c ∨ c = '_' := by
  rw [isWordStart, Bool.or_eq_true, isAlpha_iff, beq_iff_eq]

theorem isWordRest_iff {c : Char} : isWordRest c = true ↔ IsLetter c ∨ IsDigit c ∨ c = '_' := by
  have bounds : isWordRest c =
      (c.isAlpha || (decide ('0' ≤ c) && decide (c ≤ '9')) || c == '_') := rfl
  rw [bounds]
  simp only [IsDigit, Bool.or_eq_true, Bool.and_eq_true, isAlpha_iff, decide_eq_true_eq,
    beq_iff_eq, or_assoc]

theorem isParameterName_iff {s : String} : isParameterName s = true ↔ IsParameter s := by
  unfold isParameterName IsParameter
  split
  · rename_i first rest chars
    simp only [Bool.and_eq_true, List.all_eq_true, isWordStart_iff, isWordRest_iff, chars]
    constructor
    · rintro ⟨start, others⟩
      exact ⟨first, rest, rfl, start, others⟩
    · rintro ⟨_, _, same, start, others⟩
      cases same
      exact ⟨start, others⟩
  · rename_i other
    constructor
    · intro impossible
      contradiction
    · rintro ⟨first, rest, chars, _⟩
      exact absurd chars (other first rest)

instance (s : String) : Decidable (Blank s) := decidable_of_iff _ isBlank_iff

instance (s : String) : Decidable (HasNul s) := decidable_of_iff _ hasNul_iff

instance (s : String) : Decidable (IsParameter s) := decidable_of_iff _ isParameterName_iff

end Text

open Text (Blank HasNul IsParameter)

/-- All that is wrong with one column. -/
def Column.objections (c : Column) : List Refusal :=
  objection (Blank c.name) (.invalidArgument (.column .blankName)) ++
    objection (HasNul c.name) (.invalidArgument (.column (.nulInName c.name))) ++
    objection (¬ IsParameter c.parameter)
      (.invalidArgument (.column (.malformedParameter c.name c.parameter))) ++
    objection (∃ shown ∈ c.aliasName, Blank shown ∨ HasNul shown)
      (.invalidArgument (.column (.unusableAlias c.name)))

theorem Column.head?_objections (c : Column) :
    c.objections.head? = c.fault?.map fun fault => .invalidArgument (.column fault) := by
  have shown : (c.aliasName.any fun a => Text.isBlank a || hasNul a) = true ↔
      ∃ shown ∈ c.aliasName, Blank shown ∨ HasNul shown := by
    simp [Option.any_eq_true, Text.isBlank_iff, Text.hasNul_iff]
  simp only [objections, fault?, List.append_assoc, head?_objection_append, head?_objection,
    Text.isBlank_iff, Text.hasNul_iff, Bool.not_eq_true', ← Bool.not_eq_true,
    Text.isParameterName_iff, shown, apply_ite (Option.map _), Option.map_some, Option.map_none]

/-- No first writer locates the rows, and the operation has rows to locate. -/
def Keyless (op : Operation) (shape : Shape) (owners : List Column) : Prop :=
  match op, shape with
  | .insert, _ => False
  | .select, .collection => ∀ c ∈ owners, ¬ c.foreignKey
  | .select, .single | .exists, _ | .delete, _ | .update, _ => ∀ c ∈ owners, ¬ c.primaryKey

/-- No first writer carries data, and the operation has data to carry. -/
def Dataless (op : Operation) (shape : Shape) (bulkLoad : Bool) (owners : List Column) : Prop :=
  match op, shape, bulkLoad with
  | .exists, _, _ | .delete, _, _ => False
  | .insert, _, _ => ∀ c ∈ owners, c.generated
  | .update, _, _ | .select, .single, _ => ∀ c ∈ owners, c.primaryKey
  | .select, .collection, true => ∀ c ∈ owners, c.foreignKey
  | .select, .collection, false => ¬ ∃ c ∈ owners, c.primaryKey ∧ ¬ c.foreignKey

instance (owners : List Column) :
    (op : Operation) → (shape : Shape) → Decidable (Keyless op shape owners)
  | .insert, _ => .isFalse id
  | .select, .collection => inferInstanceAs (Decidable (∀ c ∈ owners, ¬ c.foreignKey))
  | .select, .single | .exists, _ | .delete, _ | .update, _ =>
    inferInstanceAs (Decidable (∀ c ∈ owners, ¬ c.primaryKey))

instance (owners : List Column) : (op : Operation) → (shape : Shape) → (bulkLoad : Bool) →
    Decidable (Dataless op shape bulkLoad owners)
  | .exists, _, _ | .delete, _, _ => .isFalse id
  | .insert, _, _ => inferInstanceAs (Decidable (∀ c ∈ owners, c.generated))
  | .update, _, _ | .select, .single, _ => inferInstanceAs (Decidable (∀ c ∈ owners, c.primaryKey))
  | .select, .collection, true => inferInstanceAs (Decidable (∀ c ∈ owners, c.foreignKey))
  | .select, .collection, false =>
    inferInstanceAs (Decidable (¬ ∃ c ∈ owners, c.primaryKey ∧ ¬ c.foreignKey))

section
variable {op : Operation} {shape : Shape} {columns : List Column} (bulkLoad : Bool)

theorem keyless_iff : Keyless op shape (firstWriters columns) ↔
    op.requiresPredicate = true ∧
      (Routing.ofColumns op shape columns bulkLoad).predicate.columns = [] := by
  rw [Routing.columns_predicate, List.filter_eq_nil_iff]
  cases op
  case select => cases shape <;> simp [Keyless, Operation.requiresPredicate, locates]
  all_goals simp [Keyless, Operation.requiresPredicate, locates]

theorem dataless_iff : Dataless op shape bulkLoad (firstWriters columns) ↔
    op.requiresPayload = true ∧
      (Routing.ofColumns op shape columns bulkLoad).payload.columns = [] := by
  rw [Routing.columns_payload]
  cases op
  case select =>
    cases shape
    case single => simp [Dataless, Operation.requiresPayload, Routing.carriers]
    case collection =>
      cases bulkLoad
      case false => simp [Dataless, Operation.requiresPayload, Routing.carriers]
      case true =>
        simp only [Dataless, Operation.requiresPayload, Routing.carriers, if_true,
          List.append_eq_nil_iff, List.filter_eq_nil_iff, true_and]
        constructor
        · intro references
          constructor
          · intro c first
            simp [references c first]
          · intro c first
            simp [references c first]
        · rintro ⟨keys, others⟩ c first
          have key := keys c first
          have other := others c first
          cases held : c.primaryKey <;> simp_all
  all_goals simp [Dataless, Operation.requiresPayload, Routing.carriers]

end

/-- All that is wrong with the arguments themselves. Every column is looked at, whatever becomes of
it later. -/
def argumentObjections (columns : List Column) (table : Table) (options : Options) :
    List Refusal :=
  objection (Blank table.name) (.invalidArgument .blankTableName) ++
    objection (HasNul table.name) (.invalidArgument .nulInTableName) ++
    objection (columns = []) (.invalidArgument (.noColumns table.sourceType)) ++
    columns.flatMap Column.objections ++
    objection (options.readLimitEnabled = true ∧ options.readLimit = 0)
      (.invalidArgument .zeroReadLimit)

/-- All that keeps the arguments from being compiled. -/
def objections (op : Operation) (shape : Shape) (columns : List Column) (table : Table)
    (options : Options) : List Refusal :=
  argumentObjections columns table options ++
    (objection (Keyless op shape (firstWriters columns)) (.missingPredicate op table.sourceType) ++
      objection (Dataless op shape options.bulkLoad (firstWriters columns))
        (.missingPayload op table.sourceType))

/-- The cause of a refusal, if there is one. -/
def cause? {α : Type} : Except Refusal α → Option Refusal
  | .error cause => some cause
  | .ok _ => none

section
variable {α : Type} {outcome : Except Refusal α}

theorem cause?_eq_some_iff {cause : Refusal} :
    cause? outcome = some cause ↔ outcome = .error cause := by
  cases outcome <;> simp [cause?]

theorem cause?_eq_none_iff : cause? outcome = none ↔ ∃ a, outcome = .ok a := by
  cases outcome <;> simp [cause?]

end

theorem head?_flatMap_objections (columns : List Column) :
    (columns.flatMap Column.objections).head? =
      (columns.findSome? Column.fault?).map fun fault => .invalidArgument (.column fault) := by
  rw [List.head?_flatMap, List.map_findSome?]
  congr 1
  funext c
  exact c.head?_objections

theorem Plan.map_fault? (columns : List Column) (table : Table) (options : Options) :
    (fault? columns table options).map Refusal.invalidArgument =
      (argumentObjections columns table options).head? := by
  simp only [argumentObjections, List.append_assoc, head?_objection_append]
  rw [List.head?_append, head?_flatMap_objections, head?_objection]
  simp only [fault?, Text.isBlank_iff, Text.hasNul_iff, List.isEmpty_iff, Bool.and_eq_true,
    beq_iff_eq, apply_ite (Option.map _), Option.map_some]
  cases columns.findSome? Column.fault? with
  | none => simp only [apply_ite (Option.map _), Option.map_some, Option.map_none, Option.none_or]
  | some fault => rfl

namespace Statement

theorem cause?_ofPlan (plan : Plan) (d : Sql.Dialect) :
    cause? (ofPlan plan d) =
      (objection (plan.operation.requiresPredicate = true ∧ plan.predicate.columns = [])
          (.missingPredicate plan.operation plan.sourceType) ++
        objection (plan.operation.requiresPayload = true ∧ plan.payload.columns = [])
          (.missingPayload plan.operation plan.sourceType)).head? := by
  simp only [ofPlan, head?_objection_append, head?_objection, Owners.isEmpty, Bool.and_eq_true,
    List.isEmpty_iff, apply_ite cause?]
  rfl

theorem cause?_compile (op : Operation) (shape : Shape) (columns : List Column) (table : Table)
    (options : Options) :
    cause? (compile op shape columns table options) =
      ((Plan.fault? columns table options).map Refusal.invalidArgument).or
        (cause? (ofPlan (Plan.assemble op shape columns table options)
          options.dialect.dialect)) := by
  rw [compile_eq]
  cases Plan.fault? columns table options with
  | some fault => rfl
  | none =>
    cases ofPlan (Plan.assemble op shape columns table options) options.dialect.dialect <;> rfl

theorem cause?_compile_eq_head? (op : Operation) (shape : Shape) (columns : List Column)
    (table : Table) (options : Options) :
    cause? (compile op shape columns table options) =
      (objections op shape columns table options).head? := by
  let plan := Plan.assemble op shape columns table options
  have keys : Keyless op shape (firstWriters columns) ↔
      plan.operation.requiresPredicate = true ∧ plan.predicate.columns = [] :=
    keyless_iff options.bulkLoad
  have data : Dataless op shape options.bulkLoad (firstWriters columns) ↔
      plan.operation.requiresPayload = true ∧ plan.payload.columns = [] :=
    dataless_iff options.bulkLoad
  rw [cause?_compile, Plan.map_fault?, cause?_ofPlan, ← List.head?_append,
    ← objection_congr keys, ← objection_congr data]
  rfl

theorem compile_of_objection {op : Operation} {shape : Shape} {columns : List Column}
    {table : Table} {options : Options} {cause : Refusal}
    (objected : cause ∈ objections op shape columns table options) :
    ∃ first, compile op shape columns table options = .error first := by
  cases outcome : compile op shape columns table options with
  | error first => exact ⟨first, rfl⟩
  | ok s =>
    have none := cause?_compile_eq_head? op shape columns table options
    rw [outcome, cause?, eq_comm, List.head?_eq_none_iff] at none
    rw [none] at objected
    contradiction

/-- A compilation is refused for the first objection to its arguments, and for no other cause; it
yields a statement exactly if there is no objection. -/
theorem compile_first_objection (op : Operation) (shape : Shape) (columns : List Column)
    (table : Table) (options : Options) :
    (∀ cause, compile op shape columns table options = .error cause ↔
      (objections op shape columns table options).head? = some cause) ∧
    ((∃ s, compile op shape columns table options = .ok s) ↔
      objections op shape columns table options = []) := by
  have first := cause?_compile_eq_head? op shape columns table options
  constructor
  · intro cause
    rw [← first, cause?_eq_some_iff]
  · rw [← cause?_eq_none_iff, first, List.head?_eq_none_iff]

/-- Three objections to one deletion: its limit is looked at although a deletion reads nothing. -/
example : objections .delete .single [{ name := "Id", parameter := "Id" }]
    { name := "T", sourceType := "T" } { readLimitEnabled := true } =
    [.invalidArgument (.column (.malformedParameter "Id" "Id")), .invalidArgument .zeroReadLimit,
      .missingPredicate .delete "T"] := by decide

end Statement
end EntityCrud
