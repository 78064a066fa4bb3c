import EntityCrud.Proofs.Caching.MoveToFront
/-! Inclusion. Of two caches that take the same steps the one with the greater capacity keeps every
key that the other one keeps. Looked up alone, a key changes the order of the larger cache only,
and statements that are dropped leave the two unevenly full; what survives all steps is that the
smaller one has its keys in the order of the larger one and has no more free places. -/
namespace EntityCrud.Cache

/-- A statement of the key is kept. -/
def Keeps (cache : Cache) (key : Key) : Prop := ∃ compiled, (key, compiled) ∈ cache.items

/-- The step returns a statement that is kept. -/
def Hits (cache : Cache) (s : Step) : Prop :=
  ∃ item ∈ cache.items, s.returned? (cache.step s).1 = some item

theorem Keeps.found {cache : Cache} {key : Key} (kept : cache.Keeps key) :
    ∃ compiled, (cache.find? key).map Entry.compiled = some compiled := by
  obtain ⟨compiled, member⟩ := kept
  obtain ⟨e, entry, same⟩ := mem_items.mp member
  have some : (cache.find? key).isSome = true :=
    List.find?_isSome.mpr ⟨e, entry, beq_iff_eq.mpr (congrArg Prod.fst same)⟩
  obtain ⟨other, found⟩ := Option.isSome_iff_exists.mp some
  exact ⟨other.compiled, found ▸ rfl⟩

theorem returned_of_found {cache : Cache} {key : Key} {compiled : Compiled}
    (found : (cache.find? key).map Entry.compiled = some compiled) {s : Step}
    (looked : s.key? = some key) : s.returned? (cache.step s).1 = some (key, compiled) := by
  cases s with
  | compile other columns =>
    obtain rfl := Option.some.inj looked
    simp only [step, compile, get, found, Step.returned?]
  | get other =>
    obtain rfl := Option.some.inj looked
    simp only [step, get, found, Step.returned?]
  | invalidate | clear => contradiction

/-- To hit is to look up a key that is kept. -/
theorem hits_iff {cache : Cache} {s : Step} :
    cache.Hits s ↔ ∃ key, s.key? = some key ∧ cache.Keeps key := by
  constructor
  · rintro ⟨⟨key, compiled⟩, kept, returned⟩
    exact ⟨key, Step.key?_of_returned returned, compiled, kept⟩
  · rintro ⟨key, looked, kept⟩
    obtain ⟨compiled, found⟩ := kept.found
    exact ⟨(key, compiled), mem_items_of_find? found, returned_of_found found looked⟩

/-- Shortened by one number, a list and a list inside it keep their order. -/
theorem take_sub_sublist {α : Type} {inner outer : List α} (inside : inner.Sublist outer)
    (n : Nat) : (inner.take (inner.length - n)).Sublist (outer.take (outer.length - n)) := by
  have rest := inside.reverse.drop n
  rw [List.drop_reverse, List.drop_reverse] at rest
  exact List.reverse_sublist.mp rest

namespace Recency

/-- The smaller list has its keys in the order of the larger one, and no more free places. -/
structure Within (small large : Recency) : Prop where
  keys : small.keys.Sublist large.keys
  room : large.keys.length + small.capacity.toNat ≤ small.keys.length + large.capacity.toNat

theorem within_empty {small large : UInt64} (le : small ≤ large) :
    Within { capacity := small } { capacity := large } :=
  ⟨.refl _, Nat.add_le_add_left (UInt64.le_iff_toNat_le.mp le) 0⟩

/-- Cut off at their capacities, lists of keys stay one within the other. -/
theorem take_within {inner outer : List Key} {c d : Nat} (inside : inner.Sublist outer)
    (room : outer.length + c ≤ inner.length + d) :
    (inner.take c).Sublist (outer.take d) ∧
      (outer.take d).length + c ≤ (inner.take c).length + d := by
  constructor
  · have shortened := take_sub_sublist inside (outer.length - d)
    have whole : outer.take (outer.length - (outer.length - d)) = outer.take d :=
      List.take_eq_take_iff.mpr (by omega)
    have shorter := List.take_sublist_take_left (l := inner) (i := c)
      (j := inner.length - (outer.length - d))
    by_cases beyond : d ≤ outer.length
    · exact whole ▸ (shorter (by omega)).trans shortened
    · rw [List.take_of_length_le (by omega : outer.length ≤ d)]
      exact (List.take_sublist _ _).trans inside
  · rw [List.length_take, List.length_take]
    omega

namespace Within
variable {small large : Recency} (within : Within small large)
include within

/-- Both lists use the key. -/
theorem front (key : Key) :
    ((key :: small.keys.erase key).take small.capacity.toNat).Sublist
        ((key :: large.keys.erase key).take large.capacity.toNat) ∧
      ((key :: large.keys.erase key).take large.capacity.toNat).length + small.capacity.toNat ≤
        ((key :: small.keys.erase key).take small.capacity.toNat).length +
          large.capacity.toNat := by
  have inside := (within.keys.erase key).cons_cons key
  have room := within.room
  have shorter := within.keys.length_le
  apply take_within inside
  simp only [List.length_cons, List.length_erase]
  by_cases kept : key ∈ small.keys
  · have nonempty := List.length_pos_of_mem kept
    rw [if_pos kept, if_pos (within.keys.subset kept)]
    omega
  · rw [if_neg kept]
    split <;> omega

/-- Only the larger list has the key, and the step looks for no other statement. -/
theorem front_large (orderly : large.Orderly) {key : Key} (kept : key ∈ large.keys)
    (absent : key ∉ small.keys) :
    small.keys.Sublist ((key :: large.keys.erase key).take large.capacity.toNat) ∧
      ((key :: large.keys.erase key).take large.capacity.toNat).length = large.keys.length := by
  have nonempty := List.length_pos_of_mem kept
  have fits : large.keys.length ≤ large.capacity.toNat := by
    simpa only [Recency.keys, List.length_map] using orderly.fits
  have same : (key :: large.keys.erase key).length = large.keys.length := by
    rw [List.length_cons, List.length_erase_of_mem kept]
    omega
  have inside := within.keys.erase key
  rw [List.erase_of_not_mem absent] at inside
  rw [List.take_of_length_le (same ▸ fits)]
  exact ⟨inside.cons key, same⟩

/-- Both lists drop what the step drops. -/
theorem filter (stays : Key → Bool) :
    (small.keys.filter stays).Sublist (large.keys.filter stays) ∧
      (large.keys.filter stays).length + small.capacity.toNat ≤
        (small.keys.filter stays).length + large.capacity.toNat := by
  refine ⟨within.keys.filter stays, ?_⟩
  have dropped := within.keys.countP_le (p := fun key => ¬ stays key = true)
  have parts := small.keys.length_eq_countP_add_countP stays
  have parts' := large.keys.length_eq_countP_add_countP stays
  have room := within.room
  rw [← List.countP_eq_length_filter, ← List.countP_eq_length_filter]
  omega

theorem step (orderly : small.Orderly) (orderly' : large.Orderly) (s : Step) :
    Within (small.step s).2 (large.step s).2 := by
  have keys := keys_step orderly s
  have keys' := keys_step orderly' s
  suffices (small.step s).2.keys.Sublist (large.step s).2.keys ∧
      (large.step s).2.keys.length + small.capacity.toNat ≤
        (small.step s).2.keys.length + large.capacity.toNat by
    refine ⟨this.1, ?_⟩
    rw [step_capacity, step_capacity]
    exact this.2
  rw [keys, keys']
  cases s.key? with
  | none => exact within.filter _
  | some key =>
    by_cases used : key ∈ small.keys ∨ s.compiles = true
    · -- What the smaller list has or compiles, the larger one has or compiles too.
      have used' := used.imp_left fun kept => within.keys.subset kept
      simp only [if_pos used, if_pos used']
      exact within.front key
    · obtain ⟨absent, fails⟩ := not_or.mp used
      by_cases kept : key ∈ large.keys
      · -- A hit in the larger list alone moves the key past others of that list only.
        obtain ⟨inside, same⟩ := within.front_large orderly' kept absent
        simp only [if_neg used, if_pos (Or.inl kept : key ∈ large.keys ∨ s.compiles = true), same]
        exact ⟨inside, within.room⟩
      · simp only [if_neg used, if_neg (not_or.mpr ⟨kept, fails⟩)]
        exact ⟨within.keys, within.room⟩

theorem run (orderly : small.Orderly) (orderly' : large.Orderly) (steps : List Step) :
    Within (small.run steps).2 (large.run steps).2 := by
  induction steps generalizing small large with
  | nil => exact within
  | cons s rest ih =>
    exact ih (within.step orderly orderly' s) (orderly.step s) (orderly'.step s)

end Within

theorem runLookups_take_le (r : Recency) (steps : List Step) (i : Nat) :
    r.runLookups (steps.take i) ≤ r.runLookups steps := by
  have parts := r.runLookups_append (steps.take i) (steps.drop i)
  rw [List.take_append_drop] at parts
  omega

end Recency

theorem Refines.mem_items_iff {cache : Cache} {r : Recency} {count : Nat}
    (refines : Refines cache r count) {item : Key × Compiled} :
    item ∈ cache.items ↔ item ∈ r.kept := by
  obtain ⟨ranking, ranked, rfl, _⟩ := refines
  exact (ranked.perm.map Entry.item).symm.mem_iff

theorem Refines.keeps_iff {cache : Cache} {r : Recency} {count : Nat}
    (refines : Refines cache r count) {key : Key} : cache.Keeps key ↔ key ∈ r.keys := by
  rw [Recency.keys, List.mem_map, Keeps]
  constructor
  · rintro ⟨compiled, member⟩
    exact ⟨(key, compiled), refines.mem_items_iff.mp member, rfl⟩
  · rintro ⟨⟨_, compiled⟩, member, rfl⟩
    exact ⟨compiled, refines.mem_items_iff.mpr member⟩

/-- Raising the capacity turns no hit into a miss: before each step of a run the larger cache keeps
every key that the smaller one keeps. -/
theorem run_inclusion {small large : UInt64} {steps : List Step} (le : small ≤ large)
    (ticks : ({ capacity := small } : Recency).runLookups steps < UInt64.size)
    (ticks' : ({ capacity := large } : Recency).runLookups steps < UInt64.size) (i : Nat) :
    let before := (run { capacity := small } (steps.take i)).2
    let before' := (run { capacity := large } (steps.take i)).2
    (∀ key, before.Keeps key → before'.Keeps key) ∧
      ∀ s, before.Hits s → before'.Hits s := by
  intro before before'
  have early := Recency.runLookups_take_le { capacity := small } steps i
  have early' := Recency.runLookups_take_le { capacity := large } steps i
  have refines := ((refines_empty small).run (steps.take i) (by omega)).2
  have refines' := ((refines_empty large).run (steps.take i) (by omega)).2
  have within := (Recency.within_empty le).run (Recency.orderly_empty small)
    (Recency.orderly_empty large) (steps.take i)
  have inclusion : ∀ key, before.Keeps key → before'.Keeps key := by
    intro key kept
    exact refines'.keeps_iff.mpr (within.keys.subset (refines.keeps_iff.mp kept))
  refine ⟨inclusion, ?_⟩
  intro s hit
  obtain ⟨key, looked, kept⟩ := hits_iff.mp hit
  exact hits_iff.mpr ⟨key, looked, inclusion key kept⟩

/-- The third step finds its key in a cache of two statements and not in a cache of one. -/
def pairedSteps : List Step :=
  [.compile (itemKey .delete) itemColumns, .compile (itemKey .exists) itemColumns,
    .get (itemKey .delete), .get (itemKey .exists), .invalidate "Item"]

theorem paired_items_found :
    (1 : UInt64) ≤ 2 ∧
      ({ capacity := 1 } : Recency).runLookups pairedSteps < UInt64.size ∧
      ({ capacity := 2 } : Recency).runLookups pairedSteps < UInt64.size ∧
      ¬ (run { capacity := 1 } (pairedSteps.take 2)).2.Keeps (itemKey .delete) ∧
      (run { capacity := 1 } (pairedSteps.take 3)).2.Hits (.get (itemKey .exists)) ∧
      (run { capacity := 2 } (pairedSteps.take 3)).2.Hits (.get (itemKey .exists)) := by
  have le : (1 : UInt64) ≤ 2 := by decide
  have ticks (capacity : UInt64) :
      ({ capacity } : Recency).runLookups pairedSteps < UInt64.size :=
    Nat.lt_of_le_of_lt (Recency.runLookups_le _ _) (by decide)
  have hit : (run { capacity := 1 } (pairedSteps.take 3)).2.Hits (.get (itemKey .exists)) :=
    ⟨_, .head _, rfl⟩
  refine ⟨le, ticks 1, ticks 2, ?_, hit, (run_inclusion le (ticks 1) (ticks 2) 3).2 _ hit⟩
  rintro ⟨compiled, kept⟩
  have keys : (run { capacity := 1 } (pairedSteps.take 2)).2.items.map Prod.fst =
    [itemKey .exists] := rfl
  have impossible : itemKey .delete ∈ [itemKey .exists] := keys ▸ List.mem_map_of_mem kept
  simp [itemKey] at impossible

end EntityCrud.Cache
