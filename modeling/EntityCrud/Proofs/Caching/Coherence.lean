import EntityCrud.Proofs.Caching.Refinement
/-! Coherence. A cache keeps statements without the columns they were compiled from. Still, each
statement it returns is what the key compiles to with the columns of some earlier compilation,
since which nothing has dropped it. -/
namespace EntityCrud.Cache

/-- What the key stands for, compiled from these columns. -/
def Key.compile (key : Key) (columns : List Column) : Except Refusal Statement :=
  Statement.compile key.operation key.shape columns key.table key.options

namespace Step

/-- Nothing of the source type is kept after the step. -/
def drops (sourceType : String) : Step → Bool
  | .invalidate other => other == sourceType
  | .clear => true
  | .compile .. | .get _ => false

/-- A compilation for the source type, if the step is one, is from these columns. -/
def passes (sourceType : String) (columns : List Column) : Step → Prop
  | .compile key others => key.sourceType = sourceType → others = columns
  | .get _ | .invalidate _ | .clear => True

instance (sourceType : String) (columns : List Column) :
    (s : Step) → Decidable (s.passes sourceType columns)
  | .compile key _ => inferInstanceAs (Decidable (key.sourceType = sourceType → _))
  | .get _ | .invalidate _ | .clear => .isTrue trivial

/-- The statement that an answer to the step returns, with its key. -/
def returned? : Step → Answer → Option (Key × Compiled)
  | .compile key _, .compiled (.ok compiled) => some (key, compiled)
  | .get key, .found (some compiled) => some (key, compiled)
  | _, _ => none

end Step

/-- Between two drops of a source type all its compilations are from the same columns. -/
def Settled : List Step → Prop
  | .compile key columns :: rest =>
    (∀ s ∈ rest.takeWhile fun s => !s.drops key.sourceType, s.passes key.sourceType columns) ∧
      Settled rest
  | _ :: rest => Settled rest
  | [] => True

instance decidableSettled : (steps : List Step) → Decidable (Settled steps)
  | .compile _ _ :: rest =>
    have := decidableSettled rest
    inferInstanceAs (Decidable (_ ∧ _))
  | .get _ :: rest | .invalidate _ :: rest | .clear :: rest => decidableSettled rest
  | [] => .isTrue trivial

/-- The key was compiled from these columns, and nothing since has dropped it. -/
def Standing (history : List Step) (key : Key) (columns : List Column) : Prop :=
  ∃ before since, history = before ++ .compile key columns :: since ∧
    ∀ s ∈ since, s.drops key.sourceType = false

/-- The statements that are kept, with their keys. -/
def items (cache : Cache) : List (Key × Compiled) := cache.entries.map Entry.item

theorem mem_items {cache : Cache} {item : Key × Compiled} :
    item ∈ cache.items ↔ ∃ e ∈ cache.entries, e.item = item := List.mem_map

theorem items_touch (cache : Cache) (key : Key) : (cache.touch key).items = cache.items := by
  unfold items
  rw [touch_entries, List.map_map]
  apply List.map_congr_left
  intro e _
  simp only [Function.comp_apply, restamp]
  split <;> rfl

theorem items_makeRoom_subset (cache : Cache) : cache.makeRoom.items ⊆ cache.items := by
  apply List.map_subset
  unfold makeRoom evict
  split
  · split
    · exact List.Subset.refl _
    · intro e member
      exact (List.mem_filter.mp member).1
  · exact List.Subset.refl _

theorem items_store_subset (cache : Cache) (key : Key) (compiled : Compiled) :
    (cache.store key compiled).items ⊆ (key, compiled) :: cache.items := by
  rw [store_eq]
  intro item kept
  obtain ⟨e, member, rfl⟩ := mem_items.mp kept
  rcases List.mem_append.mp member with old | new
  · apply List.mem_cons_of_mem
    rw [← items_touch cache key]
    exact items_makeRoom_subset _ (mem_items.mpr ⟨e, old, rfl⟩)
  · rw [List.mem_singleton.mp new]
    exact List.mem_cons_self

theorem mem_items_of_find? {cache : Cache} {key : Key} {compiled : Compiled}
    (hit : (cache.find? key).map Entry.compiled = some compiled) :
    (key, compiled) ∈ cache.items := by
  obtain ⟨e, found, rfl⟩ := Option.map_eq_some_iff.mp hit
  have same : e.key = key := by simpa using List.find?_some found
  exact mem_items.mpr ⟨e, List.mem_of_find?_eq_some found, same ▸ rfl⟩

/-- A compilation returns what is kept, or it fails and keeps nothing, or it keeps what it has
compiled. -/
theorem compile_cases (cache : Cache) (key : Key) (columns : List Column) :
    (∃ compiled, (key, compiled) ∈ cache.items ∧
      cache.compile key columns = (.ok compiled, cache.touch key)) ∨
    (∃ cause, key.compile columns = .error cause ∧
      cache.compile key columns = (.error cause, cache.touch key)) ∨
    ∃ compiled : Compiled, key.compile columns = .ok compiled.statement ∧
      (cache.compile key columns).1 = .ok compiled ∧
      (cache.compile key columns).2.items ⊆ (key, compiled) :: cache.items := by
  unfold compile get
  cases hit : (cache.find? key).map Entry.compiled with
  | some compiled => exact .inl ⟨compiled, mem_items_of_find? hit, rfl⟩
  | none =>
    right
    have touched : (cache.touch key).items = cache.items := items_touch cache key
    cases outcome : Statement.compile key.operation key.shape columns key.table key.options with
    | error cause => exact .inl ⟨cause, outcome, rfl⟩
    | ok statement =>
      refine .inr ⟨⟨cache.serial, statement⟩, outcome, rfl, ?_⟩
      rw [← touched]
      dsimp only
      split
      · exact List.subset_cons_self _ _
      · exact items_store_subset _ key _

/-- What a step returns or leaves behind was kept before and is not dropped, or the step has just
compiled it. -/
def Origin (cache : Cache) (s : Step) (item : Key × Compiled) : Prop :=
  (item ∈ cache.items ∧ s.drops item.1.sourceType = false) ∨
    ∃ columns, s = .compile item.1 columns ∧ item.1.compile columns = .ok item.2.statement

theorem origin_of_returned {cache : Cache} {s : Step} {item : Key × Compiled}
    (returned : s.returned? (cache.step s).1 = some item) : Origin cache s item := by
  cases s with
  | compile key columns =>
    rcases cache.compile_cases key columns with
      ⟨compiled, kept, eq⟩ | ⟨cause, _, eq⟩ | ⟨compiled, success, eq, _⟩
    · simp only [step, eq, Step.returned?, Option.some.injEq] at returned
      exact .inl (returned ▸ ⟨kept, rfl⟩)
    · simp [step, eq, Step.returned?] at returned
    · simp only [step, eq, Step.returned?, Option.some.injEq] at returned
      exact .inr (returned ▸ ⟨columns, rfl, success⟩)
  | get key =>
    simp only [step, get] at returned
    cases hit : (cache.find? key).map Entry.compiled with
    | none => simp [hit, Step.returned?] at returned
    | some compiled =>
      simp only [hit, Step.returned?, Option.some.injEq] at returned
      exact .inl (returned ▸ ⟨mem_items_of_find? hit, rfl⟩)
  | invalidate sourceType => simp [Step.returned?] at returned
  | clear => simp [Step.returned?] at returned

theorem origin_of_kept {cache : Cache} {s : Step} {item : Key × Compiled}
    (kept : item ∈ (cache.step s).2.items) : Origin cache s item := by
  cases s with
  | compile key columns =>
    simp only [step] at kept
    rcases cache.compile_cases key columns with
      ⟨compiled, _, eq⟩ | ⟨cause, _, eq⟩ | ⟨compiled, success, _, subset⟩
    · rw [eq, items_touch] at kept
      exact .inl ⟨kept, rfl⟩
    · rw [eq, items_touch] at kept
      exact .inl ⟨kept, rfl⟩
    · rcases List.mem_cons.mp (subset kept) with rfl | old
      · exact .inr ⟨columns, rfl, success⟩
      · exact .inl ⟨old, rfl⟩
  | get key =>
    simp only [step, get, items_touch] at kept
    exact .inl ⟨kept, rfl⟩
  | invalidate sourceType =>
    simp only [step, invalidate] at kept
    obtain ⟨e, member, rfl⟩ := mem_items.mp kept
    obtain ⟨old, stays⟩ := List.mem_filter.mp member
    have other : e.key.sourceType ≠ sourceType := bne_iff_ne.mp stays
    exact .inl ⟨mem_items.mpr ⟨e, old, rfl⟩, beq_false_of_ne other.symm⟩
  | clear => contradiction

/-- Every kept statement is what its key compiles to with the columns of a standing compilation. -/
def Coherent (history : List Step) (cache : Cache) : Prop :=
  ∀ item ∈ cache.items, ∃ columns, Standing history item.1 columns ∧
    item.1.compile columns = .ok item.2.statement

namespace Coherent
variable {history : List Step} {cache : Cache} (coherent : Coherent history cache)
include coherent

theorem standing {s : Step} {item : Key × Compiled} (origin : Origin cache s item) :
    ∃ columns, Standing (history ++ [s]) item.1 columns ∧
      item.1.compile columns = .ok item.2.statement := by
  rcases origin with ⟨kept, stays⟩ | ⟨columns, rfl, success⟩
  · obtain ⟨columns, ⟨before, since, rfl, stood⟩, success⟩ := coherent item kept
    refine ⟨columns, ⟨before, since ++ [s], by simp, ?_⟩, success⟩
    intro other member
    rcases List.mem_append.mp member with old | new
    · exact stood other old
    · rw [List.mem_singleton.mp new]
      exact stays
  · exact ⟨columns, ⟨history, [], rfl, by simp⟩, success⟩

theorem step (s : Step) : Coherent (history ++ [s]) (cache.step s).2 := by
  intro item kept
  exact coherent.standing (origin_of_kept kept)

theorem run (steps : List Step) : Coherent (history ++ steps) (cache.run steps).2 := by
  induction steps generalizing history cache with
  | nil => simpa [Cache.run] using coherent
  | cons s rest ih => simpa [Cache.run] using ih (coherent.step s)

end Coherent

theorem coherent_empty (capacity : UInt64) : Coherent [] { capacity } := by
  intro item kept
  contradiction

/-- The answer to a step is the one of the cache that the steps before it leave. -/
theorem answer_at (cache : Cache) (steps : List Step) (i : Nat) :
    (cache.run steps).1[i]? =
      steps[i]?.map fun s => ((cache.run (steps.take i)).2.step s).1 := by
  induction steps generalizing cache i with
  | nil => rfl
  | cons s rest ih =>
    cases i with
    | zero => rfl
    | succ i => exact ih (cache.step s).2 i

theorem Settled.same {before since after : List Step} {key other : Key}
    {columns others : List Column}
    (settled : Settled (before ++ .compile key columns :: since ++ .compile other others :: after))
    (stood : ∀ s ∈ since, s.drops key.sourceType = false)
    (source : other.sourceType = key.sourceType) : others = columns := by
  induction before with
  | nil =>
    have stays : ∀ s ∈ since ++ [Step.compile other others], (!s.drops key.sourceType) = true := by
      intro s member
      rcases List.mem_append.mp member with old | new
      · rw [stood s old]
        rfl
      · rw [List.mem_singleton.mp new]
        rfl
    rw [List.nil_append, List.cons_append] at settled
    apply settled.1 (.compile other others) ?_ source
    rw [List.append_cons, List.takeWhile_append_of_pos stays]
    simp
  | cons s before ih =>
    cases s
    case compile => exact ih settled.2
    all_goals exact ih settled

theorem Standing.of_concat {history : List Step} {s : Step} {key : Key} {columns : List Column}
    (standing : Standing (history ++ [s]) key columns) :
    s = .compile key columns ∨ Standing history key columns := by
  obtain ⟨before, since, split, stood⟩ := standing
  rcases List.eq_nil_or_concat since with rfl | ⟨earlier, last, rfl⟩
  · left
    obtain ⟨_, same⟩ := List.append_inj' split rfl
    exact List.head_eq_of_cons_eq same
  · right
    rw [List.concat_eq_append] at split stood
    rw [← List.cons_append, ← List.append_assoc] at split
    obtain ⟨past, _⟩ := List.append_inj' split rfl
    refine ⟨before, earlier, past, ?_⟩
    intro other member
    exact stood other (List.mem_append_left _ member)

/-- Where a source type is settled, its standing compilations are from the columns of the latest. -/
theorem Settled.columns_eq {history after : List Step} {key : Key} {columns others : List Column}
    (settled : Settled (history ++ .compile key columns :: after))
    (standing : Standing (history ++ [.compile key columns]) key others) : columns = others := by
  rcases standing.of_concat with same | ⟨before, since, rfl, stood⟩
  · exact (Step.compile.inj same).2
  · exact settled.same stood rfl

/-- A kept statement that answers a compilation is the one that the compilation would have given. -/
theorem Coherent.compile_eq {history after : List Step} {cache : Cache} {key : Key}
    {columns : List Column} (coherent : Coherent history cache)
    (settled : Settled (history ++ .compile key columns :: after)) :
    (cache.compile key columns).1.map Compiled.statement = key.compile columns := by
  rcases cache.compile_cases key columns with
    ⟨compiled, kept, eq⟩ | ⟨cause, failure, eq⟩ | ⟨compiled, success, eq, _⟩
  · obtain ⟨others, standing, success⟩ :=
      coherent.standing (s := .compile key columns) (.inl ⟨kept, rfl⟩)
    obtain rfl := settled.columns_eq standing
    rw [eq, success]
    rfl
  · rw [eq, failure]
    rfl
  · rw [eq, success]
    rfl

/-- Every returned statement is the key's, compiled from the columns of a standing compilation.
Where the columns of a source type change only after its statements are dropped, a compilation
through the cache is as good as a direct one, failures included. -/
theorem run_coherent (capacity : UInt64) (steps : List Step) :
    let answers := (run { capacity } steps).1
    (∀ (i : Nat) (s : Step) (answer : Answer) (key : Key) (compiled : Compiled),
      steps[i]? = some s → answers[i]? = some answer →
        s.returned? answer = some (key, compiled) →
          ∃ columns, Standing (steps.take (i + 1)) key columns ∧
            key.compile columns = .ok compiled.statement) ∧
    (Settled steps → ∀ (i : Nat) (key : Key) (columns : List Column),
      steps[i]? = some (.compile key columns) →
        ∃ outcome, answers[i]? = some (.compiled outcome) ∧
          outcome.map Compiled.statement = key.compile columns) := by
  intro answers
  have coherent (i : Nat) : Coherent (steps.take i) (run { capacity } (steps.take i)).2 := by
    simpa using (coherent_empty capacity).run (steps.take i)
  have past {i : Nat} {s : Step} (step : steps[i]? = some s) :
      steps.take (i + 1) = steps.take i ++ [s] := by
    rw [List.take_add_one, step]
    rfl
  have answered {i : Nat} {s : Step} (step : steps[i]? = some s) :
      answers[i]? = some ((run { capacity } (steps.take i)).2.step s).1 := by
    rw [answer_at, step]
    rfl
  constructor
  · intro i s answer key compiled step given returned
    rw [answered step, Option.some.injEq] at given
    rw [past step]
    subst given
    exact (coherent i).standing (origin_of_returned returned)
  · intro settled i key columns step
    have whole := List.take_append_drop (i + 1) steps
    rw [past step, List.append_assoc] at whole
    exact ⟨_, answered step, (coherent i).compile_eq (whole ▸ settled)⟩

/-- The columns of the example with one more column. -/
def notedColumns : List Column := itemColumns ++ [{ name := "Note" }]

/-- The third compilation is from other columns, so the statements are dropped before it. The
second one takes the only place in the cache, and the last step finds what the third has kept. -/
def notedSteps : List Step :=
  [.compile (itemKey .insert) itemColumns, .compile (itemKey .delete) itemColumns,
    .invalidate "Item", .compile (itemKey .insert) notedColumns, .get (itemKey .insert)]

theorem noted_columns_compiled_anew :
    Settled notedSteps ∧
      (∃ outcome, (run { capacity := 1 } notedSteps).1[3]? = some (.compiled outcome) ∧
        outcome.map Compiled.statement = (itemKey .insert).compile notedColumns) ∧
      ∃ answer compiled columns, (run { capacity := 1 } notedSteps).1[4]? = some answer ∧
        Step.returned? (.get (itemKey .insert)) answer = some (itemKey .insert, compiled) ∧
        Standing (notedSteps.take 5) (itemKey .insert) columns ∧
        (itemKey .insert).compile columns = .ok compiled.statement := by
  have settled : Settled notedSteps := by decide
  obtain ⟨returns, direct⟩ := run_coherent 1 notedSteps
  obtain ⟨columns, standing, success⟩ := returns 4 _ _ _ _ rfl rfl rfl
  exact ⟨settled, direct settled 3 _ _ rfl, _, _, columns, rfl, rfl, standing, success⟩

end EntityCrud.Cache
