import EntityCrud.Proofs.Caching.Inclusion
import Mathlib.Data.Finset.Card
import Mathlib.Data.Finset.Option
/-! How long a statement is kept. What a step returns leads the recency list, and every other key
that is used later comes to stand in front of it once, however often it is used. The statement goes
when these keys fill the capacity, and not before. -/
namespace EntityCrud.Cache

/-- The key of which the step returns a statement. -/
def Step.usedKey (s : Step) (answer : Answer) : Finset Key :=
  ((s.returned? answer).map Prod.fst).toFinset

/-- The keys of which the steps return a statement. -/
def usedKeys : List Step → List Answer → Finset Key
  | s :: rest, answer :: answers => s.usedKey answer ∪ usedKeys rest answers
  | _, _ => ∅

namespace Recency

section
variable {r : Recency} (orderly : r.Orderly)
include orderly

theorem lookup_of_mem {item : Key × Compiled} (kept : item ∈ r.kept) :
    r.kept.lookup item.1 = some item.2 := by
  obtain ⟨newer, older, cut⟩ := List.append_of_mem kept
  refine List.lookup_eq_some_iff.mpr ⟨newer, older, cut, ?_⟩
  have distinct := orderly.distinct
  rw [keys, cut, List.map_append, List.nodup_append] at distinct
  intro other here
  exact bne_iff_ne.mpr (distinct.2.2 other.1 (List.mem_map_of_mem here) item.1 (by simp)).symm

theorem returned_of_mem {item : Key × Compiled} (kept : item ∈ r.kept) {s : Step}
    (looked : s.key? = some item.1) : s.returned? (r.step s).1 = some item := by
  have found := lookup_of_mem orderly kept
  cases s with
  | compile key columns =>
    obtain rfl := Option.some.inj looked
    simp only [step, compile, found, Step.returned?]
  | get key =>
    obtain rfl := Option.some.inj looked
    simp only [step, found, Step.returned?]
  | invalidate | clear => contradiction

theorem front_distinct {used item : Key × Compiled} {newer older : List (Key × Compiled)}
    (cut : r.kept = newer ++ item :: older) (apart : item.1 ≠ used.1) :
    ((item :: used :: newer.filter fun other => other.1 != used.1).map Prod.fst).Nodup := by
  have distinct := orderly.distinct
  rw [keys, cut, List.map_append, List.nodup_append] at distinct
  obtain ⟨before, _, cross⟩ := distinct
  have rest : ((newer.filter fun other => other.1 != used.1).map Prod.fst).Nodup :=
    before.sublist (List.filter_sublist.map Prod.fst)
  simp only [List.map_cons, List.nodup_cons, List.mem_cons, not_or]
  refine ⟨⟨apart, ?_⟩, by simp, rest⟩
  intro inner
  have early := (List.filter_sublist.map Prod.fst).subset inner
  exact cross item.1 early item.1 (by simp) rfl

/-- Where another key is used, a kept statement is behind that key and what was in front of it, and
it goes exactly if these leave no place for it. -/
theorem overtaken {used item : Key × Compiled} {newer older : List (Key × Compiled)}
    (cut : r.kept = newer ++ item :: older) (apart : item.1 ≠ used.1) :
    let front := used :: newer.filter fun other => other.1 != used.1
    let kept := (used :: r.others used.1).take r.capacity.toNat
    (front.length < r.capacity.toNat ∧ ∃ older', kept = front ++ item :: older') ∨
      (r.capacity.toNat ≤ front.length ∧ item.1 ∉ kept.map Prod.fst) := by
  intro front kept
  have parts : used :: r.others used.1 =
      front ++ item :: older.filter fun other => other.1 != used.1 := by
    rw [others, cut, List.filter_append, List.filter_cons, if_pos (bne_iff_ne.mpr apart)]
    rfl
  unfold kept
  rcases Nat.lt_or_ge front.length r.capacity.toNat with room | full
  · obtain ⟨spare, left⟩ := Nat.exists_eq_add_of_lt room
    have succ : r.capacity.toNat - front.length = spare + 1 := by omega
    rw [parts, List.take_append, succ, List.take_succ_cons,
      List.take_of_length_le (Nat.le_of_lt room)]
    exact .inl ⟨room, _, rfl⟩
  · rw [parts, List.take_append_of_le_length full]
    refine .inr ⟨full, ?_⟩
    have distinct := List.nodup_cons.mp (front_distinct orderly cut apart)
    exact fun member => distinct.1 (((List.take_sublist _ _).map Prod.fst).subset member)

/-- What is in front of a statement has distinct keys, none of them its own. -/
theorem front_length_le {used item : Key × Compiled} {newer older : List (Key × Compiled)}
    (cut : r.kept = newer ++ item :: older) (apart : item.1 ≠ used.1) {keys : Finset Key}
    (inside : ∀ other ∈ used :: newer.filter (fun other => other.1 != used.1), other.1 ∈ keys) :
    (used :: newer.filter fun other => other.1 != used.1).length ≤ (keys.erase item.1).card := by
  obtain ⟨absent, distinct⟩ := List.nodup_cons.mp (front_distinct orderly cut apart)
  rw [← List.length_map Prod.fst, ← List.toFinset_card_of_nodup distinct]
  apply Finset.card_le_card
  intro key member
  rw [List.mem_toFinset] at member
  refine Finset.mem_erase.mpr ⟨fun same => absent (same ▸ member), ?_⟩
  obtain ⟨other, here, rfl⟩ := List.mem_map.mp member
  exact inside other here

end

/-- The statement is kept, and the keys of the set are all that can be in front of it. -/
def Behind (r : Recency) (item : Key × Compiled) (used : Finset Key) : Prop :=
  ∃ newer older, r.kept = newer ++ item :: older ∧ ∀ other ∈ newer, other.1 ∈ used

theorem Behind.kept {r : Recency} {item : Key × Compiled} {used : Finset Key}
    (behind : r.Behind item used) : item ∈ r.kept := by
  obtain ⟨newer, older, cut, _⟩ := behind
  simp [cut]

theorem Behind.mono {r : Recency} {item : Key × Compiled} {used more : Finset Key}
    (behind : r.Behind item used) (subset : used ⊆ more) : r.Behind item more := by
  obtain ⟨newer, older, cut, front⟩ := behind
  exact ⟨newer, older, cut, fun other inner => subset (front other inner)⟩

theorem behind_of_returned {r : Recency} (orderly : r.Orderly) (positive : 0 < r.capacity.toNat)
    {s : Step} {item : Key × Compiled} (returned : s.returned? (r.step s).1 = some item) :
    (r.step s).2.Behind item ∅ := by
  have kept := kept_step orderly s
  obtain ⟨spare, succ⟩ := Nat.exists_eq_succ_of_ne_zero (Nat.ne_of_gt positive)
  simp only [returned, succ, List.take_succ_cons] at kept
  exact ⟨[], _, kept, by simp⟩

theorem Behind.step {r : Recency} (orderly : r.Orderly) {item : Key × Compiled}
    {used : Finset Key} (behind : r.Behind item used) {s : Step}
    (stays : s.drops item.1.sourceType = false)
    (few : ((used ∪ s.usedKey (r.step s).1).erase item.1).card < r.capacity.toNat) :
    (r.step s).2.Behind item (used ∪ s.usedKey (r.step s).1) := by
  have kept := kept_step orderly s
  have here := behind.kept
  cases returned : s.returned? (r.step s).1 with
  | none =>
    obtain ⟨newer, older, cut, front⟩ := behind
    simp only [returned, cut, List.filter_append, List.filter_cons, stays] at kept
    refine ⟨_, _, kept, ?_⟩
    intro other inner
    exact Finset.mem_union_left _ (front other (List.mem_filter.mp inner).1)
  | some latest =>
    have member : latest.1 ∈ s.usedKey (r.step s).1 := by simp [Step.usedKey, returned]
    by_cases same : item.1 = latest.1
    · -- A use of the statement itself puts it first again, as the object that it was.
      have again := returned_of_mem orderly here (same ▸ Step.key?_of_returned returned)
      exact (behind_of_returned orderly (by omega) again).mono (Finset.empty_subset _)
    · obtain ⟨newer, older, cut, front⟩ := behind
      have inside : ∀ other ∈ latest :: newer.filter (fun other => other.1 != latest.1),
          other.1 ∈ used ∪ s.usedKey (r.step s).1 := by
        refine List.forall_mem_cons.mpr ⟨Finset.mem_union_right _ member, ?_⟩
        intro other inner
        exact Finset.mem_union_left _ (front other (List.mem_filter.mp inner).1)
      simp only [returned] at kept
      rcases overtaken orderly cut same with ⟨_, older', eq⟩ | ⟨full, _⟩
      · exact ⟨_, older', kept.trans eq, inside⟩
      · -- The keys in front are of the set, which is too small for a full list.
        have bound := front_length_le orderly cut same inside
        omega

theorem usedKeys_run (r : Recency) (s : Step) (rest : List Step) (used : Finset Key) :
    used ∪ usedKeys (s :: rest) (r.run (s :: rest)).1 =
      used ∪ s.usedKey (r.step s).1 ∪ usedKeys rest ((r.step s).2.run rest).1 :=
  (Finset.union_assoc _ _ _).symm

theorem Behind.run {r : Recency} (orderly : r.Orderly) {item : Key × Compiled} {used : Finset Key}
    (behind : r.Behind item used) {steps : List Step}
    (stays : ∀ s ∈ steps, s.drops item.1.sourceType = false)
    (few : ((used ∪ usedKeys steps (r.run steps).1).erase item.1).card < r.capacity.toNat) :
    (r.run steps).2.Behind item (used ∪ usedKeys steps (r.run steps).1) := by
  induction steps generalizing r used with
  | nil => simpa [Recency.run, usedKeys] using behind
  | cons s rest ih =>
    obtain ⟨first, others⟩ := List.forall_mem_cons.mp stays
    rw [usedKeys_run] at few ⊢
    have fewer : ((used ∪ s.usedKey (r.step s).1).erase item.1).card < r.capacity.toNat := by
      refine Nat.lt_of_le_of_lt (Finset.card_le_card ?_) few
      exact Finset.erase_subset_erase item.1 Finset.subset_union_left
    exact ih (orderly.step s) (behind.step orderly first fewer) others (by rwa [step_capacity])

/-- Where the key is still kept, all keys of the set are in front of it. -/
def Overtaken (r : Recency) (key : Key) (used : Finset Key) : Prop :=
  key ∈ r.keys → ∃ newer item older, r.kept = newer ++ item :: older ∧ item.1 = key ∧
    ∀ other ∈ used, other ∈ newer.map Prod.fst

theorem Overtaken.step {r : Recency} (orderly : r.Orderly) {key : Key} {used : Finset Key}
    (before : r.Overtaken key used) {s : Step} (looks : s.key?.isSome = true)
    (other : key ∉ s.usedKey (r.step s).1) :
    (r.step s).2.Overtaken key (used ∪ s.usedKey (r.step s).1) := by
  obtain ⟨looked, found⟩ := Option.isSome_iff_exists.mp looks
  have kept := kept_step orderly s
  intro still
  cases returned : s.returned? (r.step s).1 with
  | none =>
    have same : (r.step s).2.kept = r.kept := by
      simpa only [returned, Step.filter_drops found] using kept
    have none : s.usedKey (r.step s).1 = ∅ := by simp [Step.usedKey, returned]
    rw [keys, same] at still
    rw [none, Finset.union_empty, same]
    exact before still
  | some latest =>
    have latest_only : s.usedKey (r.step s).1 = {latest.1} := by
      simp [Step.usedKey, returned]
    simp only [returned] at kept
    rw [latest_only, Finset.mem_singleton] at other
    have old : key ∈ r.keys := by
      -- Only the latest key can have joined, and that is another one.
      rw [keys, kept] at still
      obtain ⟨item, member, rfl⟩ := List.mem_map.mp still
      rcases List.mem_cons.mp (List.mem_of_mem_take member) with rfl | inner
      · contradiction
      · exact List.mem_map_of_mem (List.mem_filter.mp inner).1
    obtain ⟨newer, item, older, cut, rfl, front⟩ := before old
    rcases overtaken orderly cut other with ⟨_, older', eq⟩ | ⟨_, gone⟩
    · refine ⟨_, item, older', kept.trans eq, rfl, ?_⟩
      rw [latest_only]
      intro key member
      rcases Finset.mem_union.mp member with earlier | now
      · by_cases same : key = latest.1
        · simp [same]
        · obtain ⟨early, here, rfl⟩ := List.mem_map.mp (front key earlier)
          apply List.mem_map_of_mem
          exact List.mem_cons_of_mem _ (List.mem_filter.mpr ⟨here, bne_iff_ne.mpr same⟩)
      · simp [Finset.mem_singleton.mp now]
    · rw [keys, kept] at still
      exact absurd still gone

theorem Overtaken.run {r : Recency} (orderly : r.Orderly) {key : Key} {used : Finset Key}
    (before : r.Overtaken key used) {steps : List Step}
    (looks : ∀ s ∈ steps, s.key?.isSome = true)
    (others : key ∉ usedKeys steps (r.run steps).1) :
    (r.run steps).2.Overtaken key (used ∪ usedKeys steps (r.run steps).1) := by
  induction steps generalizing r used with
  | nil => simpa [Recency.run, usedKeys] using before
  | cons s rest ih =>
    obtain ⟨first, later⟩ := List.forall_mem_cons.mp looks
    obtain ⟨now, afterwards⟩ := not_or.mp (mt Finset.mem_union.mpr others)
    rw [usedKeys_run]
    exact ih (orderly.step s) (before.step orderly first now) later afterwards

/-- A key that is still kept has fewer keys in front of it than the list has places. -/
theorem Overtaken.card_lt {r : Recency} (orderly : r.Orderly) {key : Key} {used : Finset Key}
    (overtaken : r.Overtaken key used) (kept : key ∈ r.keys) : used.card < r.capacity.toNat := by
  obtain ⟨newer, item, older, cut, _, front⟩ := overtaken kept
  have fits := orderly.fits
  have fewer : used.card ≤ (newer.map Prod.fst).toFinset.card :=
    Finset.card_le_card fun key member => List.mem_toFinset.mpr (front key member)
  have distinct := List.toFinset_card_le (newer.map Prod.fst)
  rw [cut, List.length_append, List.length_cons] at fits
  rw [List.length_map] at distinct
  omega

/-- A statement outlives steps that do not drop it and use fewer other keys than there are places. -/
theorem Behind.kept_run {r : Recency} (orderly : r.Orderly) {item : Key × Compiled}
    (first : r.Behind item ∅) {steps : List Step}
    (stays : ∀ s ∈ steps, s.drops item.1.sourceType = false)
    (few : ((usedKeys steps (r.run steps).1).erase item.1).card < r.capacity.toNat) :
    item ∈ (r.run steps).2.kept := by
  rw [← Finset.empty_union (usedKeys steps _)] at few
  exact (first.run orderly stays few).kept

/-- A key does not outlive steps that use as many other keys as there are places. -/
theorem not_mem_keys_run {r : Recency} (orderly : r.Orderly) {key : Key} {steps : List Step}
    (looks : ∀ s ∈ steps, s.key?.isSome = true)
    (others : key ∉ usedKeys steps (r.run steps).1)
    (many : r.capacity.toNat ≤ (usedKeys steps (r.run steps).1).card) :
    key ∉ (r.run steps).2.keys := by
  have first : r.Overtaken key ∅ := by
    intro kept
    obtain ⟨item, member, same⟩ := List.mem_map.mp kept
    obtain ⟨newer, older, cut⟩ := List.append_of_mem member
    exact ⟨newer, item, older, cut, same, by simp⟩
  have overtaken := first.run orderly looks others
  rw [Finset.empty_union] at overtaken
  intro kept
  have fewer := overtaken.card_lt (orderly.run steps) kept
  rw [run_capacity] at fewer
  omega

end Recency

section
variable {since : List Step} (clearless : .clear ∉ since)
include clearless

theorem stays_of_not_mem {sourceType : String} (valid : .invalidate sourceType ∉ since) :
    ∀ s ∈ since, s.drops sourceType = false := by
  intro s member
  cases s with
  | compile | get => rfl
  | invalidate other =>
    apply beq_false_of_ne
    rintro rfl
    exact valid member
  | clear => contradiction

theorem looks_of_not_mem (valid : ∀ sourceType, .invalidate sourceType ∉ since) :
    ∀ s ∈ since, s.key?.isSome = true := by
  intro s member
  cases s with
  | compile | get => rfl
  | invalidate other => exact absurd member (valid other)
  | clear => contradiction

end

/-- A statement that a step returns is kept, as the same object, through everything that does not
drop its source type and uses fewer other keys than the capacity. Once as many other keys as the
capacity are used after it, and nothing at all is dropped, it is gone. -/
theorem used_survives {capacity : UInt64} {past since : List Step} {last : Step} {key : Key}
    {compiled : Compiled} (positive : 0 < capacity)
    (ticks : ({ capacity } : Recency).runLookups (past ++ last :: since) < UInt64.size)
    (returned : last.returned? ((run { capacity } past).2.step last).1 = some (key, compiled)) :
    let window := ((run { capacity } past).2.step last).2.run since
    let others := (usedKeys since window.1).erase key
    (.clear ∉ since → .invalidate key.sourceType ∉ since → others.card < capacity.toNat →
      (key, compiled) ∈ window.2.items ∧ ∀ s : Step, s.key? = some key →
        s.returned? (window.2.step s).1 = some (key, compiled)) ∧
    (.clear ∉ since → (∀ sourceType, .invalidate sourceType ∉ since) →
      key ∉ usedKeys since window.1 → capacity.toNat ≤ others.card →
        (window.2.step (.get key)).1 = .found none) := by
  intro window others
  rw [Recency.runLookups_append, Recency.runLookups] at ticks
  obtain ⟨_, before⟩ := (refines_empty capacity).run past (by omega)
  obtain ⟨answer, after⟩ := before.step last (by omega)
  obtain ⟨answers, finished⟩ := after.run since (by omega)
  let list := (Recency.run { capacity } past).2
  have orderly : list.Orderly := (Recency.orderly_empty capacity).run past
  have size : list.capacity = capacity := Recency.run_capacity { capacity } past
  have size' : (list.step last).2.capacity = capacity := (list.step_capacity last).trans size
  have same : usedKeys since window.1 = usedKeys since ((list.step last).2.run since).1 :=
    congrArg (usedKeys since) answers
  constructor
  · intro clearless valid few
    have room : 0 < list.capacity.toNat := size ▸ UInt64.lt_iff_toNat_lt.mp positive
    have first := Recency.behind_of_returned orderly room (answer ▸ returned)
    have kept := first.kept_run (orderly.step last) (stays_of_not_mem clearless valid)
      (by rw [size', ← same]; exact few)
    refine ⟨finished.mem_items_iff.mpr kept, fun s looked => ?_⟩
    have found := Recency.lookup_of_mem ((orderly.step last).run since) kept
    exact returned_of_found ((finished.found_eq key).trans found) looked
  · intro clearless valid unused many
    rw [show others = _ from Finset.erase_eq_of_notMem unused, same, ← size'] at many
    have gone := Recency.not_mem_keys_run (orderly.step last) (looks_of_not_mem clearless valid)
      (same ▸ unused) many
    have missing := (finished.found_eq key).trans (Recency.lookup_eq_none_iff.mpr gone)
    exact congrArg Answer.found missing

/-- A cache of two statements, after one is compiled and these steps are taken. -/
def afterDelete (since : List Step) : List Answer × Cache :=
  ((run { capacity := 2 } []).2.step (.compile (itemKey .delete) itemColumns)).2.run since

/-- Two uses of one key, a miss, a failure and a drop of other statements. -/
def restingSteps : List Step :=
  [.compile (itemKey .exists) itemColumns, .get (itemKey .exists), .get (itemKey .update),
    .compile (itemKey .update) [], .invalidate "Order"]

/-- Two uses of the same key and one of a third. -/
def crowdingSteps : List Step :=
  [.compile (itemKey .exists) itemColumns, .get (itemKey .exists),
    .compile (itemKey .select) itemColumns]

theorem delete_survives_one_key :
    (0 : UInt64) < 2 ∧
      (∀ since ∈ [restingSteps, crowdingSteps], ({ capacity := 2 } : Recency).runLookups
        ([] ++ .compile (itemKey .delete) itemColumns :: since) < UInt64.size) ∧
      ((usedKeys restingSteps (afterDelete restingSteps).1).erase (itemKey .delete)).card = 1 ∧
      ((usedKeys crowdingSteps (afterDelete crowdingSteps).1).erase (itemKey .delete)).card = 2 ∧
      (∃ compiled, (Step.compile (itemKey .delete) itemColumns).returned?
          ((run { capacity := 2 } []).2.step (.compile (itemKey .delete) itemColumns)).1 =
            some (itemKey .delete, compiled) ∧
        (Step.get (itemKey .delete)).returned?
          ((afterDelete restingSteps).2.step (.get (itemKey .delete))).1 =
            some (itemKey .delete, compiled)) ∧
      ((afterDelete crowdingSteps).2.step (.get (itemKey .delete))).1 = .found none := by
  have positive : (0 : UInt64) < 2 := by decide
  have ticks : ∀ since ∈ [restingSteps, crowdingSteps], ({ capacity := 2 } : Recency).runLookups
      ([] ++ .compile (itemKey .delete) itemColumns :: since) < UInt64.size := by
    intro since member
    have short : ∀ since ∈ [restingSteps, crowdingSteps], since.length ≤ 5 := by decide
    have few := short since member
    refine Nat.lt_of_le_of_lt (Recency.runLookups_le _ _) (Nat.lt_of_le_of_lt ?_ (by decide : 12 < _))
    simp only [List.nil_append, List.length_cons]
    omega
  have returned : (Step.compile (itemKey .delete) itemColumns).returned?
      ((run { capacity := 2 } []).2.step (.compile (itemKey .delete) itemColumns)).1 =
        some (itemKey .delete, _) := rfl
  have survives := (used_survives positive (ticks restingSteps (by simp)) returned).1 (by decide)
    (by decide) (by decide)
  have gone := (used_survives positive (ticks crowdingSteps (by simp)) returned).2 (by decide)
    (by simp [crowdingSteps]) (by decide) (by decide)
  exact ⟨positive, ticks, rfl, rfl, ⟨_, returned, survives.2 (.get (itemKey .delete)) rfl⟩, gone⟩

end EntityCrud.Cache
