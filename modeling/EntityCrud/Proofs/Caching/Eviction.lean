import EntityCrud.Proofs.Caching.MoveToFront
import Mathlib.Algebra.Group.Nat.Defs
import Mathlib.Logic.Function.Basic
/-! Eviction. A map lists its entries in no particular order. As the stamps of a cache are distinct, the
entry with the least of them is found in every order alike: it is the one whose last use is the
earliest, and it never is the one that has just been stored. -/
namespace EntityCrud.Cache

/-- The cache with its entries in another order. -/
def listed (cache : Cache) (order : List Entry) : Cache := { cache with entries := order }

/-- The steps lead from an empty cache to this one and have these answers. Before each of them the
entries may be listed in any order. -/
inductive Reached (capacity : UInt64) : List (Step × Answer) → Cache → Prop where
  | empty : Reached capacity [] { capacity }
  | step {history : List (Step × Answer)} {cache : Cache} {order : List Entry}
      (reached : Reached capacity history cache) (perm : order.Perm cache.entries) (s : Step) :
      Reached capacity (history ++ [(s, ((cache.listed order).step s).1)])
        ((cache.listed order).step s).2

/-- The key of which a step has returned a statement. -/
def usedKey? (taken : Step × Answer) : Option Key := (taken.1.returned? taken.2).map Prod.fst

/-- The step at this place returned a statement of the key, and no later one did. -/
structure LastUse (history : List (Step × Answer)) (key : Key) (i : Nat) : Prop where
  used : history[i]?.bind usedKey? = some key
  unused : ∀ j, i < j → history[j]?.bind usedKey? ≠ some key

/-- Every other entry was used after this one. -/
structure LeastRecent (history : List (Step × Answer)) (cache : Cache) (e : Entry) : Prop where
  kept : e ∈ cache.entries
  earliest : ∃ i, LastUse history e.key i ∧
    ∀ other ∈ cache.entries, other ≠ e → ∃ j, LastUse history other.key j ∧ i < j

/-- The keys come in the order of their last uses, the latest first. -/
structure Dated (history : List (Step × Answer)) (keys : List Key) (place : Key → Nat) : Prop where
  last : ∀ key ∈ keys, LastUse history key (place key)
  falling : keys.Pairwise fun newer older => place older < place newer

section
variable {history : List (Step × Answer)} {taken : Step × Answer} {key : Key} {i : Nat}

theorem LastUse.lt_length (last : LastUse history key i) : i < history.length := by
  obtain ⟨taken, here, _⟩ := Option.bind_eq_some_iff.mp last.used
  exact (List.getElem?_eq_some_iff.mp here).1

theorem LastUse.unique {j : Nat} (first : LastUse history key i) (second : LastUse history key j) :
    i = j := by
  rcases Nat.lt_trichotomy i j with before | same | after
  · exact absurd second.used (first.unused j before)
  · exact same
  · exact absurd first.used (second.unused i after)

/-- A step that does not use the key leaves its last use where it was. -/
theorem LastUse.concat (last : LastUse history key i) (other : usedKey? taken ≠ some key) :
    LastUse (history ++ [taken]) key i := by
  constructor
  · rw [List.getElem?_append_left last.lt_length]
    exact last.used
  · intro j after
    rcases Nat.lt_or_ge j history.length with inside | beyond
    · rw [List.getElem?_append_left inside]
      exact last.unused j after
    · rw [List.getElem?_append_right beyond]
      cases j - history.length with
      | zero => exact other
      | succ n => simp

theorem lastUse_concat (used : usedKey? taken = some key) :
    LastUse (history ++ [taken]) key history.length := by
  constructor
  · simpa using used
  · intro j after
    have beyond : (history ++ [taken]).length ≤ j := by
      rw [List.length_append, List.length_singleton]
      exact after
    rw [List.getElem?_eq_none beyond]
    simp

namespace Dated
variable {keys : List Key} {place : Key → Nat} (dated : Dated history keys place)
include dated

theorem sublist {fewer : List Key} (sublist : fewer.Sublist keys) : Dated history fewer place :=
  ⟨fun key here => dated.last key (sublist.subset here), dated.falling.sublist sublist⟩

theorem concat (others : ∀ key ∈ keys, usedKey? taken ≠ some key) :
    Dated (history ++ [taken]) keys place :=
  ⟨fun key here => (dated.last key here).concat (others key here), dated.falling⟩

/-- The key that is used now comes before all the others. -/
theorem front (used : usedKey? taken = some key) (fresh : key ∉ keys) :
    Dated (history ++ [taken]) (key :: keys) (Function.update place key history.length) := by
  have old : ∀ other ∈ keys, Function.update place key history.length other = place other := by
    intro other here
    apply Function.update_of_ne
    rintro rfl
    exact fresh here
  constructor
  · refine List.forall_mem_cons.mpr ⟨?_, fun other here => ?_⟩
    · rw [Function.update_self]
      exact lastUse_concat used
    · rw [old other here]
      apply (dated.last other here).concat
      rw [used]
      rintro ⟨⟩
      exact fresh here
  · refine List.pairwise_cons.mpr ⟨fun other here => ?_, ?_⟩
    · rw [Function.update_self, old other here]
      exact (dated.last other here).lt_length
    · refine dated.falling.imp_of_mem fun first second lower => ?_
      rw [old _ first, old _ second]
      exact lower

end Dated
end

namespace Recency

theorem run_concat (r : Recency) (steps : List Step) (s : Step) :
    r.run (steps ++ [s]) =
      ((r.run steps).1 ++ [((r.run steps).2.step s).1], ((r.run steps).2.step s).2) := by
  induction steps generalizing r with
  | nil => rfl
  | cons first rest ih => simp [run, ih]

/-- A step moves the key that it uses to the front and leaves the order of the others. -/
theorem dated_step {r : Recency} (orderly : r.Orderly) {history : List (Step × Answer)}
    {place : Key → Nat} (dated : Dated history r.keys place) (s : Step) :
    ∃ place', Dated (history ++ [(s, (r.step s).1)]) (r.step s).2.keys place' := by
  have kept := kept_step orderly s
  cases returned : s.returned? (r.step s).1 with
  | none =>
    have fewer : (r.step s).2.keys.Sublist r.keys := by
      rw [keys, kept, returned]
      exact List.filter_sublist.map _
    have unused : usedKey? (s, (r.step s).1) = none := by simp [usedKey?, returned]
    exact ⟨place, (dated.sublist fewer).concat (by simp [unused])⟩
  | some item =>
    have used : usedKey? (s, (r.step s).1) = some item.1 := by simp [usedKey?, returned]
    have fewer : (r.step s).2.keys.Sublist (item.1 :: r.keys.filter fun key => key != item.1) := by
      rw [keys, kept, returned, ← keys_others]
      exact (List.take_sublist _ _).map _
    have others : Dated history (r.keys.filter fun key => key != item.1) place :=
      dated.sublist List.filter_sublist
    exact ⟨_, (others.front used (by simp)).sublist fewer⟩

end Recency

section
variable {cache : Cache} {ranking order : List Entry}

theorem Ranked.listed (ranked : Ranked cache ranking) (perm : order.Perm cache.entries) :
    Ranked (cache.listed order) ranking :=
  ⟨ranked.perm.trans perm.symm, ranked.falling, ranked.past, ranked.apart, ranked.fits⟩

theorem Refines.listed {r : Recency} {count : Nat} (refines : Refines cache r count)
    (perm : order.Perm cache.entries) : Refines (cache.listed order) r count := by
  obtain ⟨ranking, ranked, view, clock⟩ := refines
  exact ⟨ranking, ranked.listed perm, view, clock⟩

end

/-- The cache is the recency list of the steps, whose order is that of the last uses. -/
structure Follows (capacity : UInt64) (history : List (Step × Answer)) (cache : Cache) : Prop where
  answers : history.map Prod.snd = (Recency.run { capacity } (history.map Prod.fst)).1
  refines : Refines cache (Recency.run { capacity } (history.map Prod.fst)).2
    (({ capacity } : Recency).runLookups (history.map Prod.fst))
  dated : ∃ place, Dated history (Recency.run { capacity } (history.map Prod.fst)).2.keys place

section
variable {capacity : UInt64} {history : List (Step × Answer)} {cache : Cache}

theorem follows_empty : Follows capacity [] { capacity } where
  answers := rfl
  refines := refines_empty capacity
  dated := ⟨fun _ => 0, by simp [Recency.run, Recency.keys], .nil⟩

/-- The order in which the entries are listed before a step makes no difference to it. -/
theorem Follows.step (follows : Follows capacity history cache) {order : List Entry}
    (perm : order.Perm cache.entries) (few : history.length + 1 < 2 ^ 63) (s : Step) :
    Follows capacity (history ++ [(s, ((cache.listed order).step s).1)])
      ((cache.listed order).step s).2 := by
  obtain ⟨answers, refines, place, dated⟩ := follows
  have steps (answer : Answer) : (history ++ [(s, answer)]).map Prod.fst =
      history.map Prod.fst ++ [s] := List.map_append
  have ticks : ({ capacity } : Recency).runLookups (history.map Prod.fst) +
      (Recency.run { capacity } (history.map Prod.fst)).2.lookups s < UInt64.size := by
    have looks := Recency.runLookups_le { capacity } (history.map Prod.fst)
    have more := (Recency.run { capacity } (history.map Prod.fst)).2.lookups_le_two s
    have size : UInt64.size = 2 * 2 ^ 63 := rfl
    rw [List.length_map] at looks
    omega
  obtain ⟨answer, after⟩ := (refines.listed perm).step s ticks
  have orderly := (Recency.orderly_empty capacity).run (history.map Prod.fst)
  constructor
  · rw [steps, Recency.run_concat, List.map_append, answers, answer]
    rfl
  · rw [steps, Recency.run_concat, Recency.runLookups_append]
    exact after
  · rw [steps, Recency.run_concat, answer]
    exact Recency.dated_step orderly dated s

theorem Reached.follows (reached : Reached capacity history cache)
    (few : history.length < 2 ^ 63) : Follows capacity history cache := by
  induction reached with
  | empty => exact follows_empty
  | step reached perm s ih =>
    rw [List.length_append, List.length_singleton] at few
    exact (ih (by omega)).step perm few s

end

section
variable {capacity : UInt64} {history : List (Step × Answer)} {cache : Cache}
  {ranking order : List Entry} {place : Key → Nat} {e : Entry}

/-- What ranks last was used least recently. -/
theorem Ranked.leastRecent_iff (ranked : Ranked cache ranking)
    (dated : Dated history (ranking.map Entry.key) place) :
    LeastRecent history cache e ↔ ranking.getLast? = some e := by
  have used {other : Entry} (kept : other ∈ cache.entries) :
      LastUse history other.key (place other.key) :=
    dated.last _ (List.mem_map_of_mem (ranked.mem_iff.mpr kept))
  rw [List.getLast?_eq_some_iff]
  constructor
  · rintro ⟨kept, i, first, later⟩
    obtain ⟨newer, older, cut⟩ := List.append_of_mem (ranked.mem_iff.mpr kept)
    cases older with
    | nil => exact ⟨newer, cut⟩
    | cons other older =>
      -- An entry that ranks after this one was used before it.
      have inside : other ∈ cache.entries := ranked.mem_iff.mp (by simp [cut])
      have below := (ranked.around cut).2 other (by simp)
      have different : other ≠ e := fun same => UInt64.lt_irrefl _ (same ▸ below)
      obtain ⟨j, second, after⟩ := later other inside different
      have falling := dated.falling
      rw [cut, List.map_append, List.map_cons, List.pairwise_append, List.pairwise_cons] at falling
      have before := falling.2.1.1 other.key (by simp)
      rw [first.unique (used kept), second.unique (used inside)] at after
      exact absurd before (Nat.lt_asymm after)
  · rintro ⟨others, cut⟩
    have kept : e ∈ cache.entries := ranked.mem_iff.mp (by simp [cut])
    refine ⟨kept, place e.key, used kept, fun other inside different => ?_⟩
    refine ⟨place other.key, used inside, ?_⟩
    have before : other ∈ others := by simpa [cut, different] using ranked.mem_iff.mpr inside
    have falling := dated.falling
    rw [cut, List.map_append, List.pairwise_append] at falling
    exact falling.2.2 _ (List.mem_map_of_mem before) _ (by simp)

/-- In every order of the entries the least stamp is found at what ranks last. -/
theorem Ranked.oldest?_eq_getLast? (ranked : Ranked cache ranking)
    (perm : order.Perm cache.entries) : oldest? order = ranking.getLast? := by
  cases last : ranking.getLast? with
  | none =>
    obtain rfl := List.getLast?_eq_none_iff.mp last
    exact oldest?_eq_none.mpr (perm.trans ranked.perm.symm).eq_nil
  | some e =>
    obtain ⟨others, cut⟩ := List.getLast?_eq_some_iff.mp last
    exact (ranked.listed perm).oldest?_eq cut

/-- In every order of the entries the one that ranks last is evicted, and it alone. -/
theorem Ranked.evict_perm (ranked : Ranked cache ranking) (last : ranking.getLast? = some e)
    (perm : order.Perm cache.entries) :
    (e :: (cache.listed order).evict.entries).Perm cache.entries := by
  obtain ⟨others, rfl⟩ := List.getLast?_eq_some_iff.mp last
  have left := ((ranked.listed perm).evict rfl).perm
  exact (left.symm.cons e).trans ((List.perm_append_singleton e others).symm.trans ranked.perm)

/-- In a full cache the entry that was used least recently makes room, and it alone. -/
theorem Ranked.not_mem_makeRoom_iff (ranked : Ranked cache ranking)
    (dated : Dated history (ranking.map Entry.key) place) (positive : cache.capacity ≠ 0)
    (kept : e ∈ cache.entries) :
    e ∉ cache.makeRoom.entries ↔
      cache.entries.length = cache.capacity.toNat ∧ LeastRecent history cache e := by
  obtain ⟨room, _⟩ := ranked.makeRoom positive
  have member := ranked.mem_iff.mpr kept
  rw [← room.mem_iff, ← ranked.perm.length_eq, ranked.leastRecent_iff dated]
  by_cases full : ranking.length = cache.capacity.toNat
  · rw [if_pos full, and_iff_right full]
    constructor
    · intro absent
      have nonempty : ranking ≠ [] := List.ne_nil_of_mem member
      rw [← List.dropLast_concat_getLast nonempty, List.mem_append] at member
      rw [List.getLast?_eq_some_getLast nonempty, List.mem_singleton.mp (member.resolve_left absent)]
    · intro last here
      obtain ⟨others, cut⟩ := List.getLast?_eq_some_iff.mp last
      rw [cut, List.dropLast_concat] at here
      exact UInt64.lt_irrefl _ ((ranked.around cut).1 e here)
  · rw [if_neg full]
    exact ⟨fun absent => absurd member absent, fun impossible => absurd impossible.1 full⟩

/-- A look-up of a key that is not kept changes no entry. -/
theorem touch_entries_absent {key : Key} (absent : cache.find? key = none) :
    (cache.touch key).entries = cache.entries := by
  apply map_restamp_absent
  intro e here
  simpa using List.find?_eq_none.mp absent e here

/-- Which entries make room is a matter of the entries and the capacity alone. -/
theorem makeRoom_items_congr {other : Cache} (capacity : other.capacity = cache.capacity)
    (entries : other.entries = cache.entries) : other.makeRoom.items = cache.makeRoom.items := by
  unfold items makeRoom evict
  rw [capacity, entries]
  split
  · split
    · exact congrArg _ entries
    · rfl
  · exact congrArg _ entries

theorem items_store_absent {key : Key} (absent : cache.find? key = none) (compiled : Compiled) :
    (cache.store key compiled).items = cache.makeRoom.items ++ [(key, compiled)] := by
  have same : (cache.touch key).makeRoom.items = cache.makeRoom.items :=
    makeRoom_items_congr rfl (touch_entries_absent absent)
  rw [store_eq, ← same]
  exact List.map_append

/-- What a compilation stores joins what is left when there is room for it. -/
theorem items_compile_absent {key : Key} {columns : List Column} {compiled : Compiled}
    (positive : cache.capacity ≠ 0) (absent : cache.find? key = none)
    (compiles : (cache.compile key columns).1 = .ok compiled) :
    (cache.compile key columns).2.items = cache.makeRoom.items ++ [(key, compiled)] := by
  have got : cache.get key = (none, cache.touch key) := by
    rw [get, absent]
    rfl
  have entries := touch_entries_absent absent
  cases outcome : Statement.compile key.operation key.shape columns key.table key.options with
  | error cause => simp [compile, got, outcome] at compiles
  | ok statement =>
    simp only [compile, got, outcome, Except.ok.injEq] at compiles ⊢
    have positive' : (cache.touch key).capacity ≠ 0 := positive
    rw [if_neg positive', compiles, items_store_absent (by rw [find?, entries]; exact absent)]
    exact congrArg (· ++ _) (makeRoom_items_congr rfl entries)

/-- A compilation that stores a statement keeps it, and in a full cache it drops the entry that was
used least recently. -/
theorem Ranked.compile_absent (ranked : Ranked cache ranking)
    (dated : Dated history (ranking.map Entry.key) place) (positive : cache.capacity ≠ 0)
    {key : Key} {columns : List Column} {compiled : Compiled} (absent : cache.find? key = none)
    (compiles : (cache.compile key columns).1 = .ok compiled) :
    let kept := (cache.compile key columns).2.items
    (key, compiled) ∈ kept ∧ ∀ e ∈ cache.entries,
      e.item ∉ kept ↔ cache.entries.length = cache.capacity.toNat ∧ LeastRecent history cache e := by
  rw [items_compile_absent positive absent compiles]
  refine ⟨by simp, fun e inside => ?_⟩
  rw [← ranked.not_mem_makeRoom_iff dated positive inside, not_iff_not, List.mem_append]
  constructor
  · rintro (here | here)
    · obtain ⟨room, fewer, _⟩ := ranked.makeRoom positive
      obtain ⟨other, left, same⟩ := mem_items.mp here
      have ranks := fewer.subset (room.mem_iff.mpr left)
      have alike : other.key = e.key := congrArg Prod.fst same
      rwa [← ranked.apart other ranks e (ranked.mem_iff.mpr inside) alike]
    · have looked : e.key = key := congrArg Prod.fst (List.mem_singleton.mp here)
      have missed := List.find?_eq_none.mp absent e inside
      simp [looked] at missed
  · intro here
    exact .inl (mem_items.mpr ⟨e, here, rfl⟩)

/-- In every state that a cache reaches by fewer than 2^63 steps, the clock has counted each look-up,
no two stamps are equal and none is ahead of the clock. So the order in which the entries are listed
shows in no answer, and in any order the entry that is evicted is the one that was used least recently.
A compilation that stores a statement keeps it, and drops an entry only if the cache is full, namely
that one. -/
theorem reached_evicts_least_recent (reached : Reached capacity history cache)
    (few : history.length < 2 ^ 63) :
    history.map Prod.snd = (run { capacity } (history.map Prod.fst)).1 ∧
      cache.clock.toNat = ({ capacity } : Recency).runLookups (history.map Prod.fst) ∧
      (cache.entries.map Entry.stamp).Nodup ∧ (∀ e ∈ cache.entries, e.stamp ≤ cache.clock) ∧
      (cache.entries ≠ [] → ∃ e, LeastRecent history cache e) ∧
      ∀ order, order.Perm cache.entries →
        (∀ e, oldest? order = some e ↔ LeastRecent history cache e) ∧
        (∀ e, LeastRecent history cache e →
          (e :: (cache.listed order).evict.entries).Perm cache.entries) ∧
        ∀ key columns compiled, capacity ≠ 0 → cache.find? key = none →
          ((cache.listed order).compile key columns).1 = .ok compiled →
            let kept := ((cache.listed order).compile key columns).2.items
            (key, compiled) ∈ kept ∧ ∀ e ∈ cache.entries,
              e.item ∉ kept ↔
                cache.entries.length = capacity.toNat ∧ LeastRecent history cache e := by
  obtain ⟨answers, ⟨ranking, ranked, view, clock⟩, place, dated⟩ := reached.follows few
  have ticks : ({ capacity } : Recency).runLookups (history.map Prod.fst) < UInt64.size :=
    clock ▸ cache.clock.toNat_lt
  obtain ⟨same, _⟩ := (refines_empty capacity).run (history.map Prod.fst) (by rwa [Nat.zero_add])
  have size : cache.capacity = capacity :=
    (congrArg Recency.capacity view).trans (Recency.run_capacity _ _)
  rw [← view, Recency.keys, Cache.view, List.map_map] at dated
  have falling : (ranking.map Entry.stamp).Nodup :=
    List.pairwise_map.mpr (ranked.falling.imp fun lower => (UInt64.ne_of_lt lower).symm)
  have least (e : Entry) : LeastRecent history cache e ↔ ranking.getLast? = some e :=
    ranked.leastRecent_iff dated
  refine ⟨answers.trans same.symm, clock, (ranked.perm.map _).nodup_iff.mp falling,
    fun e here => ranked.past e (ranked.mem_iff.mpr here), ?_, ?_⟩
  · intro filled
    have nonempty : ranking ≠ [] := fun none => filled (none ▸ ranked.perm).nil_eq.symm
    exact ⟨ranking.getLast nonempty, (least _).mpr (List.getLast?_eq_some_getLast nonempty)⟩
  · intro order perm
    refine ⟨fun e => ?_, fun e earliest => ranked.evict_perm ((least e).mp earliest) perm, ?_⟩
    · rw [least, ranked.oldest?_eq_getLast? perm]
    · intro key columns compiled positive absent compiles
      have again := ranked.listed perm
      have missed : (cache.listed order).find? key = none :=
        List.find?_eq_none.mpr fun e here => List.find?_eq_none.mp absent e (perm.subset here)
      obtain ⟨stored, dropped⟩ := again.compile_absent dated (size ▸ positive) missed compiles
      refine ⟨stored, fun e here => ?_⟩
      rw [dropped e (perm.symm.subset here), again.leastRecent_iff dated, least, ← size,
        ← perm.length_eq]
      rfl

end

/-- Two statements are stored, and the older one is looked up. -/
def reviewedSteps : List Step :=
  [.compile (itemKey .delete) itemColumns, .compile (itemKey .exists) itemColumns,
    .get (itemKey .delete)]

theorem exists_evicted_in_any_order : ∃ history cache,
    Reached 2 history cache ∧ history.length < 2 ^ 63 ∧ history.map Prod.fst = reviewedSteps ∧
      cache.clock.toNat = 5 ∧ ∃ e, e.key = itemKey .exists ∧
        (∀ order, order.Perm cache.entries → oldest? order = some e) ∧
        let fourth := (cache.listed cache.entries.reverse).compile (itemKey .select) itemColumns
        ∃ compiled, fourth.1 = .ok compiled ∧ (itemKey .select, compiled) ∈ fourth.2.items ∧
          e.item ∉ fourth.2.items := by
  have start : Reached 2 [] { capacity := 2 } := .empty
  have first := start.step (.refl _) (.compile (itemKey .delete) itemColumns)
  have second := first.step (.refl _) (.compile (itemKey .exists) itemColumns)
  have third := second.step (List.reverse_perm _) (.get (itemKey .delete))
  have few : 3 < 2 ^ 63 := by decide
  obtain ⟨_, clock, _, _, _, orders⟩ := reached_evicts_least_recent third few
  have oldest := ((orders _ (.refl _)).1 _).mp rfl
  obtain ⟨_, _, stored⟩ := orders _ (List.reverse_perm _)
  obtain ⟨kept, dropped⟩ := stored (itemKey .select) itemColumns _ (by decide) rfl rfl
  refine ⟨_, _, third, few, rfl, clock, _, ?_, fun order perm => ((orders order perm).1 _).mpr oldest,
    _, rfl, kept, (dropped _ oldest.kept).mpr ⟨rfl, oldest⟩⟩
  rfl

end EntityCrud.Cache
