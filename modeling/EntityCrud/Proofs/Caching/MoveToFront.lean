import EntityCrud.Proofs.Caching.Coherence
/-! Moving to the front. One rule says what every step does to a recency list: what the step
returns comes first, and the list is cut off at the capacity; a step that returns nothing can
only drop. -/
namespace EntityCrud.Cache

namespace Step

/-- The key that a step looks up. -/
def key? : Step → Option Key
  | .compile key _ | .get key => some key
  | .invalidate _ | .clear => none

/-- The step has a statement to return even where none is kept. -/
def compiles : Step → Bool
  | .compile key columns => (key.compile columns).isOk
  | .get _ | .invalidate _ | .clear => false

theorem key?_of_returned {s : Step} {answer : Answer} {item : Key × Compiled}
    (returned : s.returned? answer = some item) : s.key? = some item.1 := by
  unfold returned? at returned
  split at returned
  · obtain rfl := Option.some.inj returned
    rfl
  · obtain rfl := Option.some.inj returned
    rfl
  · contradiction

/-- A step that looks for a statement drops none. -/
theorem filter_drops {α : Type} {s : Step} {key : Key} (looked : s.key? = some key)
    (list : List α) (source : α → String) : list.filter (fun a => !s.drops (source a)) = list := by
  cases s with
  | compile | get => simp [drops]
  | invalidate | clear => contradiction

end Step

namespace Recency

/-- The keys that are kept, the latest use first. -/
def keys (r : Recency) : List Key := r.kept.map Prod.fst

/-- No key is kept twice, and there is room for all of them. -/
structure Orderly (r : Recency) : Prop where
  distinct : r.keys.Nodup
  fits : r.kept.length ≤ r.capacity.toNat

theorem orderly_empty (capacity : UInt64) : Orderly { capacity } := ⟨.nil, Nat.zero_le _⟩

section
variable {r : Recency} {key : Key}

theorem lookup_eq_none_iff : r.kept.lookup key = none ↔ key ∉ r.keys := by
  rw [List.lookup_eq_none_iff]
  constructor
  · intro absent member
    obtain ⟨item, kept, rfl⟩ := List.mem_map.mp member
    simpa using absent item kept
  · intro absent item kept
    refine bne_iff_ne.mpr ?_
    rintro rfl
    exact absent (List.mem_map_of_mem kept)

theorem mem_of_lookup {compiled : Compiled} (found : r.kept.lookup key = some compiled) :
    (key, compiled) ∈ r.kept := by
  obtain ⟨newer, older, cut, _⟩ := List.lookup_eq_some_iff.mp found
  simp [cut]

/-- The kept statements of the other keys. -/
def others (r : Recency) (key : Key) : List (Key × Compiled) :=
  r.kept.filter fun item => item.1 != key

theorem others_of_not_mem (absent : key ∉ r.keys) : r.others key = r.kept := by
  apply List.filter_eq_self.mpr
  intro item kept
  refine bne_iff_ne.mpr ?_
  rintro rfl
  exact absent (List.mem_map_of_mem kept)

theorem keys_others : (r.others key).map Prod.fst = r.keys.filter fun other => other != key := by
  rw [keys, List.filter_map]
  rfl

theorem length_others_lt (kept : key ∈ r.keys) : (r.others key).length < r.kept.length := by
  obtain ⟨item, member, rfl⟩ := List.mem_map.mp kept
  exact List.length_filter_lt_length_iff_exists.mpr ⟨item, member, by simp⟩

theorem kept_put (orderly : r.Orderly) (absent : key ∉ r.keys) (positive : r.capacity ≠ 0)
    (compiled : Compiled) :
    (r.put key compiled).kept = ((key, compiled) :: r.others key).take r.capacity.toNat := by
  have room : 0 < r.capacity.toNat :=
    Nat.pos_of_ne_zero fun zero => positive (UInt64.toNat_inj.mp zero)
  have fits := orderly.fits
  obtain ⟨spare, succ⟩ := Nat.exists_eq_succ_of_ne_zero (Nat.ne_of_gt room)
  rw [others_of_not_mem absent, succ, List.take_succ_cons]
  unfold put
  split
  · rename_i full
    rw [List.dropLast_eq_take, full, succ]
    rfl
  · rw [List.take_of_length_le (by omega)]

theorem kept_use (orderly : r.Orderly) {compiled : Compiled}
    (found : r.kept.lookup key = some compiled) :
    (r.use key).kept = ((key, compiled) :: r.others key).take r.capacity.toNat := by
  have fits := orderly.fits
  have kept : key ∈ r.keys := List.mem_map_of_mem (mem_of_lookup found)
  have fewer := length_others_lt kept
  have room : ((key, compiled) :: r.others key).length ≤ r.capacity.toNat := by
    rw [List.length_cons]
    omega
  rw [List.take_of_length_le room, use, found]
  rfl

end

/-- What a step returns comes first, and the list is cut off at the capacity. What a step that
returns nothing drops is all that goes. -/
theorem kept_step {r : Recency} (orderly : r.Orderly) (s : Step) :
    (r.step s).2.kept =
      match s.returned? (r.step s).1 with
      | some item => (item :: r.others item.1).take r.capacity.toNat
      | none => r.kept.filter fun item => !s.drops item.1.sourceType := by
  cases s with
  | compile key columns =>
    cases found : r.kept.lookup key with
    | some compiled =>
      simp only [step, compile, found, Step.returned?]
      exact kept_use orderly found
    | none =>
      cases outcome : Statement.compile key.operation key.shape columns key.table key.options with
      | error cause =>
        simp only [step, compile, found, outcome, Step.returned?]
        exact (Step.filter_drops rfl r.kept _).symm
      | ok statement =>
        have absent := lookup_eq_none_iff.mp found
        simp only [step, compile, found, outcome, Step.returned?]
        by_cases empty : r.capacity = 0
        · have none : r.kept = [] := List.eq_nil_of_length_eq_zero (by simpa [empty] using orderly.fits)
          rw [if_pos empty, empty, none]
          rfl
        · rw [if_neg empty]
          exact kept_put ⟨orderly.distinct, orderly.fits⟩ absent empty _
  | get key =>
    cases found : r.kept.lookup key with
    | some compiled =>
      simp only [step, found, Step.returned?]
      exact kept_use orderly found
    | none =>
      simp only [step, found, Step.returned?, use_of_lookup_eq_none found]
      exact (Step.filter_drops rfl r.kept _).symm
  | invalidate sourceType =>
    simp only [step, invalidate, Step.returned?, Step.drops]
    congr 1
    funext item
    rw [bne, BEq.comm]
  | clear => simp [step, Step.returned?, Step.drops]

/-- A step returns a statement of the key that it looks up, if one is kept or is compiled. -/
theorem returnedKey (r : Recency) (s : Step) :
    (s.returned? (r.step s).1).map Prod.fst =
      s.key?.filter fun key => decide (key ∈ r.keys) || s.compiles := by
  cases s with
  | compile key columns =>
    cases found : r.kept.lookup key with
    | some compiled =>
      have kept : key ∈ r.keys := List.mem_map_of_mem (mem_of_lookup found)
      simp [step, compile, found, Step.returned?, Step.key?, Option.filter_some, kept]
    | none =>
      have absent := lookup_eq_none_iff.mp found
      cases outcome : Statement.compile key.operation key.shape columns key.table key.options <;>
        simp [step, compile, found, outcome, Step.returned?, Step.key?, Step.compiles, Key.compile,
          Option.filter_some, absent, Except.isOk, Except.toBool]
  | get key =>
    cases found : r.kept.lookup key with
    | some compiled =>
      have kept : key ∈ r.keys := List.mem_map_of_mem (mem_of_lookup found)
      simp [step, found, Step.returned?, Step.key?, Option.filter_some, kept]
    | none =>
      have absent := lookup_eq_none_iff.mp found
      simp [step, found, Step.returned?, Step.key?, Step.compiles, Option.filter_some, absent]
  | invalidate sourceType => rfl
  | clear => rfl

/-- The keys alone tell which keys a step leaves. -/
theorem keys_step {r : Recency} (orderly : r.Orderly) (s : Step) :
    (r.step s).2.keys =
      match s.key? with
      | some key =>
        if key ∈ r.keys ∨ s.compiles = true then (key :: r.keys.erase key).take r.capacity.toNat
        else r.keys
      | none => r.keys.filter fun key => !s.drops key.sourceType := by
  have returned := r.returnedKey s
  rw [keys, kept_step orderly]
  cases looked : s.key? with
  | none =>
    rw [looked, Option.filter_none, Option.map_eq_none_iff] at returned
    rw [returned]
    simp only [keys, List.filter_map]
    rfl
  | some key =>
    simp only [looked, Option.filter_some, Bool.or_eq_true, decide_eq_true_eq] at returned
    split at returned
    · rename_i used
      obtain ⟨item, found, rfl⟩ := Option.map_eq_some_iff.mp returned
      simp only [found, if_pos used, List.map_take, List.map_cons, keys_others,
        orderly.distinct.erase_eq_filter]
    · rename_i missed
      rw [Option.map_eq_none_iff] at returned
      simp only [returned, if_neg missed, Step.filter_drops looked r.kept]
      rfl

namespace Orderly
variable {r : Recency} (orderly : r.Orderly)
include orderly

theorem step (s : Step) : Orderly (r.step s).2 := by
  constructor
  · unfold keys
    rw [kept_step orderly]
    split
    · rename_i item _
      rw [List.map_take, List.map_cons, keys_others]
      apply List.Nodup.sublist (List.take_sublist _ _)
      refine List.nodup_cons.mpr ⟨?_, orderly.distinct.sublist List.filter_sublist⟩
      simp
    · exact orderly.distinct.sublist (List.filter_sublist.map _)
  · rw [step_capacity, kept_step orderly]
    split
    · exact List.length_take_le _ _
    · exact Nat.le_trans (List.length_filter_le _ _) orderly.fits

theorem run (steps : List Step) : Orderly (r.run steps).2 := by
  induction steps generalizing r with
  | nil => exact orderly
  | cons s rest ih => exact ih (orderly.step s)

end Orderly
end Recency
end EntityCrud.Cache
