import EntityCrud.Cache
/-! Recency lists: kept statements with their keys, the latest use first. A list of this kind
answers as a cache does, and has no clock. -/
namespace EntityCrud.Cache

structure Recency where
  capacity : UInt64
  /-- The serial of the next compiled statement. -/
  serial : Nat := 0
  kept : List (Key × Compiled) := []

/-- A miss: nothing was found, or nothing could be compiled. -/
def Answer.missed : Answer → Bool
  | .compiled (.error _) | .found none => true
  | _ => false

namespace Recency

/-- Brings a kept key to the front. -/
def use (r : Recency) (key : Key) : Recency :=
  match r.kept.lookup key with
  | some compiled =>
    { r with kept := (key, compiled) :: r.kept.filter fun item => item.1 != key }
  | none => r

/-- Puts a new key in front. A full list loses its last element. -/
def put (r : Recency) (key : Key) (compiled : Compiled) : Recency :=
  let others := if r.kept.length = r.capacity.toNat then r.kept.dropLast else r.kept
  { r with kept := (key, compiled) :: others }

def compile (r : Recency) (key : Key) (columns : List Column) :
    Except Refusal Compiled × Recency :=
  match r.kept.lookup key with
  | some compiled => (.ok compiled, r.use key)
  | none =>
    match Statement.compile key.operation key.shape columns key.table key.options with
    | .error cause => (.error cause, r)
    | .ok statement =>
      let compiled := ⟨r.serial, statement⟩
      let next := { r with serial := r.serial + 1 }
      (.ok compiled, if r.capacity = 0 then next else next.put key compiled)

def invalidate (r : Recency) (sourceType : String) : Nat × Recency :=
  (r.kept.countP fun item => item.1.sourceType == sourceType,
    { r with kept := r.kept.filter fun item => item.1.sourceType != sourceType })

def step (r : Recency) : Step → Answer × Recency
  | .compile key columns =>
    let (outcome, r) := r.compile key columns
    (.compiled outcome, r)
  | .get key => (.found (r.kept.lookup key), r.use key)
  | .invalidate sourceType =>
    let (count, r) := r.invalidate sourceType
    (.dropped count, r)
  | .clear => (.cleared, { r with kept := [] })

def run (r : Recency) : List Step → List Answer × Recency
  | [] => ([], r)
  | s :: rest =>
    let (answer, r) := r.step s
    let (answers, r) := r.run rest
    (answer :: answers, r)

/-- The look-ups that a cache makes in a step. A statement that is kept is looked up twice. -/
def lookups (r : Recency) : Step → Nat
  | .compile key columns =>
    match r.kept.lookup key,
      Statement.compile key.operation key.shape columns key.table key.options with
    | none, .ok _ => if r.capacity = 0 then 1 else 2
    | _, _ => 1
  | .get _ => 1
  | .invalidate _ | .clear => 0

/-- The look-ups of a whole run. -/
def runLookups (r : Recency) : List Step → Nat
  | [] => 0
  | s :: rest => r.lookups s + (r.step s).2.runLookups rest

theorem use_of_lookup_eq_none {r : Recency} {key : Key} (absent : r.kept.lookup key = none) :
    r.use key = r := by
  rw [use, absent]

theorem use_capacity (r : Recency) (key : Key) : (r.use key).capacity = r.capacity := by
  unfold use
  split <;> rfl

theorem step_capacity (r : Recency) (s : Step) : (r.step s).2.capacity = r.capacity := by
  cases s with
  | compile key columns =>
    simp only [step, compile]
    split
    · exact r.use_capacity key
    · split
      · rfl
      · split <;> rfl
  | get key => exact r.use_capacity key
  | invalidate sourceType => rfl
  | clear => rfl

theorem run_capacity (r : Recency) (steps : List Step) : (r.run steps).2.capacity = r.capacity := by
  induction steps generalizing r with
  | nil => rfl
  | cons s rest ih => exact (ih (r.step s).2).trans (r.step_capacity s)

theorem step_missed {r : Recency} {s : Step} (missed : (r.step s).1.missed = true) :
    (r.step s).2 = r := by
  cases s with
  | compile key columns =>
    simp only [step, compile] at missed ⊢
    split at missed
    · contradiction
    · split at missed
      · rfl
      · contradiction
  | get key =>
    cases found : r.kept.lookup key with
    | none => exact use_of_lookup_eq_none found
    | some compiled => simp [step, found, Answer.missed] at missed
  | invalidate sourceType => contradiction
  | clear => contradiction

/-- A miss can be left out of a run, and no other answer changes. -/
theorem run_eraseIdx {r : Recency} {steps : List Step} {i : Nat} {answer : Answer}
    (answered : (r.run steps).1[i]? = some answer) (missed : answer.missed = true) :
    r.run (steps.eraseIdx i) = ((r.run steps).1.eraseIdx i, (r.run steps).2) ∧
      r.runLookups (steps.eraseIdx i) ≤ r.runLookups steps := by
  induction steps generalizing r i with
  | nil => simp [run] at answered
  | cons s rest ih =>
    cases i with
    | zero =>
      obtain rfl : (r.step s).1 = answer := by simpa [run] using answered
      -- The miss leaves the list as it is, and the rest runs from there either way.
      have same := step_missed missed
      simp [run, runLookups, same]
    | succ i =>
      obtain ⟨answers, bound⟩ := ih (r := (r.step s).2) (i := i) (by simpa [run] using answered)
      simp only [List.eraseIdx_cons_succ, run, runLookups, answers]
      exact ⟨trivial, Nat.add_le_add_left bound _⟩

theorem lookups_le_two (r : Recency) (s : Step) : r.lookups s ≤ 2 := by
  unfold lookups
  split
  · split
    · split <;> decide
    · decide
  · decide
  · decide
  · decide

theorem runLookups_le (r : Recency) (steps : List Step) :
    r.runLookups steps ≤ 2 * steps.length := by
  induction steps generalizing r with
  | nil => exact Nat.zero_le _
  | cons s rest ih =>
    have first := r.lookups_le_two s
    have others := ih (r.step s).2
    simp only [runLookups, List.length_cons]
    omega

theorem runLookups_append (r : Recency) (before after : List Step) :
    r.runLookups (before ++ after) = r.runLookups before + (r.run before).2.runLookups after := by
  induction before generalizing r with
  | nil => exact (Nat.zero_add _).symm
  | cons s rest ih =>
    have others := ih (r.step s).2
    simp only [List.cons_append, runLookups, run]
    omega

end Recency
end EntityCrud.Cache
