import EntityCrud.Proofs.Caching.Ranking
/-! A cache is a recency list. Step by step it gives the answers of the list, and its entries
ordered by their stamps are the list, as long as the look-ups do not exhaust the clock. -/
namespace EntityCrud.Cache

/-- The cache has a ranking, is the recency list without its clock, and has made so many
look-ups. -/
def Refines (cache : Cache) (r : Recency) (count : Nat) : Prop :=
  ∃ ranking, Ranked cache ranking ∧ cache.view ranking = r ∧ cache.clock.toNat = count

theorem refines_empty (capacity : UInt64) : Refines { capacity } { capacity } 0 := by
  refine ⟨[], ⟨.refl _, .nil, ?_, ?_, Nat.zero_le _⟩, rfl, rfl⟩
  · intro e member
    contradiction
  · intro a member
    contradiction

namespace Refines
variable {cache : Cache} {r : Recency} {count : Nat} (refines : Refines cache r count)
include refines

theorem recency_eq : cache.recency = r := by
  obtain ⟨ranking, ranked, same, _⟩ := refines
  exact ranked.recency_eq.trans same

theorem kept_le : r.kept.length ≤ r.capacity.toNat := by
  obtain ⟨ranking, ranked, rfl, _⟩ := refines
  simpa only [view, List.length_map] using ranked.fits

theorem found_eq (key : Key) : (cache.find? key).map Entry.compiled = r.kept.lookup key := by
  obtain ⟨ranking, ranked, rfl, _⟩ := refines
  rcases kept_or_absent ranking key with ⟨e, here, rfl⟩ | absent
  · rw [ranked.find?_kept here]
    exact (ranked.lookup_kept here).symm
  · rw [ranked.find?_absent absent]
    exact (Ranked.lookup_absent absent).symm

theorem touch (key : Key) (ticks : count + 1 < UInt64.size) :
    Refines (cache.touch key) (r.use key) (count + 1) := by
  obtain ⟨ranking, ranked, rfl, rfl⟩ := refines
  have clock := toNat_clock_succ ticks
  rcases kept_or_absent ranking key with ⟨e, here, rfl⟩ | absent
  · obtain ⟨newer, older, cut⟩ := List.append_of_mem here
    refine ⟨_, ranked.touch_kept cut ticks, ?_, clock⟩
    have remains : (ranking.map Entry.item).filter (fun item => item.1 != e.key) =
        (newer ++ older).map Entry.item := by
      rw [List.filter_map, ← filter_key (ranked.key_ne cut), ← cut]
      rfl
    simp only [Recency.use, view, ranked.lookup_kept here, remains]
    rfl
  · refine ⟨ranking, ranked.touch_absent absent ticks, ?_, clock⟩
    exact (Recency.use_of_lookup_eq_none (Ranked.lookup_absent absent)).symm

theorem store {key : Key} (absent : r.kept.lookup key = none) (compiled : Compiled)
    (positive : r.capacity ≠ 0) (ticks : count + 1 < UInt64.size) :
    Refines (cache.store key compiled) (r.put key compiled) (count + 1) := by
  obtain ⟨ranking, ranked, rfl, rfl⟩ := refines
  have absent : ∀ e ∈ ranking, e.key ≠ key := by
    intro e here same
    rw [← same] at absent
    exact absurd ((ranked.lookup_kept here).symm.trans absent) (by simp)
  have later := lt_clock_succ (UInt64.le_refl cache.clock) ticks
  obtain ⟨spared, kept, room⟩ := (ranked.touch_absent absent ticks).makeRoom positive
  rw [store_eq]
  refine ⟨⟨key, compiled, cache.clock + 1⟩ :: _, ranked.front kept
    (fun e here => absent e (kept.subset here)) rfl later ?_ room, ?_, toNat_clock_succ ticks⟩
  · exact (spared.perm.cons _).trans (List.perm_append_singleton _ _).symm
  · unfold Recency.put view
    rw [List.length_map, ← List.map_dropLast, ← apply_ite]
    rfl

/-- A statement is compiled but not kept yet. -/
theorem fresh : Refines { cache with serial := r.serial + 1 }
    { r with serial := r.serial + 1 } count := by
  obtain ⟨ranking, ranked, rfl, same⟩ := refines
  exact ⟨ranking, ⟨ranked.perm, ranked.falling, ranked.past, ranked.apart, ranked.fits⟩, rfl, same⟩

theorem invalidate (sourceType : String) :
    (cache.invalidate sourceType).1 = (r.invalidate sourceType).1 ∧
      Refines (cache.invalidate sourceType).2 (r.invalidate sourceType).2 count := by
  obtain ⟨ranking, ranked, rfl, same⟩ := refines
  let stays (e : Entry) : Bool := e.key.sourceType != sourceType
  constructor
  · have parts := cache.entries.length_eq_countP_add_countP stays
    have dropped := ranked.perm.countP_eq fun e => ¬ stays e
    have counted : (ranking.map Entry.item).countP (fun item => item.1.sourceType == sourceType) =
        ranking.countP fun e => ¬ stays e := by
      rw [List.countP_map]
      exact List.countP_congr fun e _ => by simp [stays, Entry.item]
    simp only [Cache.invalidate, Recency.invalidate, view, counted, dropped,
      ← List.countP_eq_length_filter]
    exact Nat.sub_eq_of_eq_add' parts
  · refine ⟨ranking.filter stays, ?_, ?_, same⟩
    · exact ranked.sublist List.filter_sublist (ranked.perm.filter stays) (UInt64.le_refl _) rfl
    · simp only [view, Recency.invalidate, List.filter_map]
      rfl

theorem clear : Refines cache.clear { r with kept := [] } count := by
  obtain ⟨ranking, ranked, rfl, same⟩ := refines
  exact ⟨[], ranked.sublist (List.nil_sublist ranking) (.refl _) (UInt64.le_refl _) rfl, rfl, same⟩

theorem capacity_eq : cache.capacity = r.capacity := by
  obtain ⟨_, _, rfl, _⟩ := refines
  rfl

theorem serial_eq : cache.serial = r.serial := by
  obtain ⟨_, _, rfl, _⟩ := refines
  rfl

theorem compile (key : Key) (columns : List Column)
    (ticks : count + r.lookups (.compile key columns) < UInt64.size) :
    (cache.compile key columns).1 = (r.compile key columns).1 ∧
      Refines (cache.compile key columns).2 (r.compile key columns).2
        (count + r.lookups (.compile key columns)) := by
  have found := refines.found_eq key
  cases kept : r.kept.lookup key with
  | some compiled =>
    have got : cache.get key = (some compiled, cache.touch key) := by rw [get, found, kept]
    simp only [Recency.lookups, kept] at ticks
    simp only [Cache.compile, Recency.compile, Recency.lookups, got, kept]
    exact ⟨trivial, refines.touch key ticks⟩
  | none =>
    have got : cache.get key = (none, cache.touch key) := by rw [get, found, kept]
    have stays := Recency.use_of_lookup_eq_none kept
    cases outcome : Statement.compile key.operation key.shape columns key.table key.options with
    | error cause =>
      simp only [Recency.lookups, kept, outcome] at ticks
      have touched := refines.touch key ticks
      rw [stays] at touched
      simp only [Cache.compile, Recency.compile, Recency.lookups, got, kept, outcome]
      exact ⟨trivial, touched⟩
    | ok statement =>
      -- The key is looked up again when its statement is kept, and the second stamp is the one
      -- that ranks it.
      simp only [Recency.lookups, kept, outcome] at ticks
      have touched := refines.touch key (by split at ticks <;> omega)
      rw [stays] at touched
      have same : (cache.touch key).serial = r.serial := touched.serial_eq
      have zero : (cache.touch key).capacity = 0 ↔ r.capacity = 0 := by rw [touched.capacity_eq]
      simp only [Cache.compile, Recency.compile, Recency.lookups, got, kept, outcome]
      rw [same]
      by_cases empty : r.capacity = 0
      · rw [if_pos (zero.mpr empty), if_pos empty, if_pos empty]
        exact ⟨rfl, touched.fresh⟩
      · rw [if_neg empty] at ticks
        rw [if_neg (mt zero.mp empty), if_neg empty, if_neg empty]
        exact ⟨rfl, touched.fresh.store kept _ empty ticks⟩

theorem step (s : Step) (ticks : count + r.lookups s < UInt64.size) :
    (cache.step s).1 = (r.step s).1 ∧
      Refines (cache.step s).2 (r.step s).2 (count + r.lookups s) := by
  cases s with
  | compile key columns =>
    obtain ⟨same, compiled⟩ := refines.compile key columns ticks
    exact ⟨congrArg Answer.compiled same, compiled⟩
  | get key =>
    exact ⟨congrArg Answer.found (refines.found_eq key), refines.touch key ticks⟩
  | invalidate sourceType =>
    obtain ⟨same, dropped⟩ := refines.invalidate sourceType
    exact ⟨congrArg Answer.dropped same, dropped⟩
  | clear => exact ⟨rfl, refines.clear⟩

/-- Every answer of a run is that of the recency list. -/
theorem run (steps : List Step) (ticks : count + r.runLookups steps < UInt64.size) :
    (cache.run steps).1 = (r.run steps).1 ∧
      Refines (cache.run steps).2 (r.run steps).2 (count + r.runLookups steps) := by
  induction steps generalizing cache r count with
  | nil => exact ⟨rfl, refines⟩
  | cons s rest ih =>
    simp only [Recency.runLookups, ← Nat.add_assoc] at ticks
    obtain ⟨answer, stepped⟩ := refines.step s (by omega)
    obtain ⟨answers, finished⟩ := ih stepped ticks
    simp only [Cache.run, Recency.run, Recency.runLookups, ← Nat.add_assoc]
    exact ⟨by rw [answer, answers], finished⟩

end Refines

/-- As long as the clock does not wrap, a cache is a recency list: the list gives every answer,
the entries ordered by their stamps are the list, and it never exceeds the capacity. A step that
missed can be left out of the run, and no other answer changes. -/
theorem run_recency {capacity : UInt64} {steps : List Step}
    (ticks : ({ capacity } : Recency).runLookups steps < UInt64.size) :
    let list := Recency.run { capacity } steps
    let answers := (run { capacity } steps).1
    let cache := (run { capacity } steps).2
    answers = list.1 ∧ cache.recency = list.2 ∧ list.2.kept.length ≤ capacity.toNat ∧
      ∀ i answer, answers[i]? = some answer → answer.missed = true →
        (run { capacity } (steps.eraseIdx i)).1 = answers.eraseIdx i := by
  intro list answers cache
  have start : Refines { capacity } { capacity } 0 := refines_empty capacity
  obtain ⟨same, finished⟩ := start.run steps (by rwa [Nat.zero_add])
  refine ⟨same, finished.recency_eq, ?_, ?_⟩
  · have bound := finished.kept_le
    rwa [Recency.run_capacity] at bound
  · intro i answer answered missed
    rw [show answers = list.1 from same] at answered ⊢
    obtain ⟨erased, fewer⟩ := Recency.run_eraseIdx answered missed
    obtain ⟨same', _⟩ := start.run (steps.eraseIdx i) (by omega)
    rw [same', erased]

/-- The key of an operation on a table with one column besides its key. -/
def itemKey (operation : Operation) : Key := ⟨{ name := "Item" }, operation, .single, {}⟩

def itemColumns : List Column := [{ name := "Id", primaryKey := true }, { name := "Name" }]

/-- A hit saves the older of two statements, a compilation fails, and the third statement takes
the place of the one that was not used. -/
def itemSteps : List Step :=
  [.compile (itemKey .delete) itemColumns, .compile (itemKey .exists) itemColumns,
    .get (itemKey .delete), .compile (itemKey .insert) [],
    .compile (itemKey .select) itemColumns, .get (itemKey .exists)]

theorem latest_items_kept :
    ({ capacity := 2 } : Recency).runLookups itemSteps < UInt64.size ∧
      (run { capacity := 2 } itemSteps).1.map Answer.missed =
        [false, false, false, true, false, true] ∧
      (run { capacity := 2 } itemSteps).2.recency.kept.map
          (fun item => (item.1.operation, item.2.serial)) = [(.select, 2), (.delete, 0)] := by
  have ticks : ({ capacity := 2 } : Recency).runLookups itemSteps < UInt64.size :=
    Nat.lt_of_le_of_lt (Recency.runLookups_le _ _) (by decide)
  obtain ⟨answers, list, _⟩ := run_recency ticks
  refine ⟨ticks, ?_, ?_⟩
  · rw [answers]
    rfl
  · rw [list]
    rfl

end EntityCrud.Cache
