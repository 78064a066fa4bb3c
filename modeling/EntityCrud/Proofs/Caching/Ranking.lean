import EntityCrud.Proofs.Caching.Recency
/-! The stamps of a cache rank its entries. As long as the clock does not wrap, no two entries
have one stamp, and every operation of the cache is one of the recency list of its entries. -/
namespace EntityCrud.Cache

def Entry.item (e : Entry) : Key × Compiled := (e.key, e.compiled)

/-- The first entry was used no earlier than the second. -/
def Entry.notOlder (a b : Entry) : Bool := b.stamp ≤ a.stamp

/-- The entries, the latest use first. -/
structure Ranked (cache : Cache) (ranking : List Entry) : Prop where
  perm : ranking.Perm cache.entries
  falling : ranking.Pairwise fun newer older => older.stamp < newer.stamp
  past : ∀ e ∈ ranking, e.stamp ≤ cache.clock
  apart : ∀ a ∈ ranking, ∀ b ∈ ranking, a.key = b.key → a = b
  fits : ranking.length ≤ cache.capacity.toNat

/-- A cache without its clock, given the ranking of its entries. -/
def view (cache : Cache) (ranking : List Entry) : Recency :=
  ⟨cache.capacity, cache.serial, ranking.map Entry.item⟩

/-- A cache without its clock: what it keeps, ordered by the stamps. -/
def recency (cache : Cache) : Recency :=
  cache.view (cache.entries.mergeSort Entry.notOlder)

theorem toNat_clock_succ {clock : UInt64} (ticks : clock.toNat + 1 < UInt64.size) :
    (clock + 1).toNat = clock.toNat + 1 := by
  rw [UInt64.toNat_add]
  exact Nat.mod_eq_of_lt ticks

theorem lt_clock_succ {clock stamp : UInt64} (past : stamp ≤ clock)
    (ticks : clock.toNat + 1 < UInt64.size) : stamp < clock + 1 := by
  rw [UInt64.le_iff_toNat_le] at past
  rw [UInt64.lt_iff_toNat_lt, toNat_clock_succ ticks]
  omega

/-- The cache with room for one more entry. -/
def makeRoom (cache : Cache) : Cache :=
  if cache.capacity.toNat ≤ cache.entries.length then cache.evict else cache

theorem makeRoom_eq (cache : Cache) :
    cache.makeRoom = { cache with entries := cache.makeRoom.entries } := by
  unfold makeRoom evict
  split
  · split <;> rfl
  · rfl

theorem store_eq (cache : Cache) (key : Key) (compiled : Compiled) :
    cache.store key compiled = { cache.touch key with
      entries := (cache.touch key).makeRoom.entries ++ [⟨key, compiled, cache.clock + 1⟩] } := by
  have room := makeRoom_eq (cache.touch key)
  have stored : cache.store key compiled = { (cache.touch key).makeRoom with
      entries := (cache.touch key).makeRoom.entries ++
        [⟨key, compiled, (cache.touch key).makeRoom.clock⟩] } := rfl
  rw [stored, room]
  rfl

/-- What a look-up of a key does to an entry. -/
def restamp (key : Key) (now : UInt64) (e : Entry) : Entry :=
  if e.key = key then { e with stamp := now } else e

theorem touch_entries (cache : Cache) (key : Key) :
    (cache.touch key).entries = cache.entries.map (restamp key (cache.clock + 1)) := rfl

theorem map_restamp_absent {entries : List Entry} {key : Key}
    (absent : ∀ e ∈ entries, e.key ≠ key) (now : UInt64) :
    entries.map (restamp key now) = entries :=
  (List.map_congr_left fun e member => if_neg (absent e member)).trans (List.map_id _)

theorem kept_or_absent (entries : List Entry) (key : Key) :
    (∃ e ∈ entries, e.key = key) ∨ ∀ e ∈ entries, e.key ≠ key := by
  by_cases kept : ∃ e ∈ entries, e.key = key
  · exact .inl kept
  · exact .inr fun e here same => kept ⟨e, here, same⟩

theorem filter_key {e : Entry} {newer older : List Entry}
    (others : ∀ other ∈ newer ++ older, other.key ≠ e.key) :
    (newer ++ e :: older).filter (fun x => x.key != e.key) = newer ++ older := by
  have same := List.filter_eq_self.mpr fun x here => bne_iff_ne.mpr (others x here)
  rw [List.filter_append] at same
  rw [List.filter_append, List.filter_cons_of_neg (by simp), same]

theorem oldest?_eq_none {entries : List Entry} : oldest? entries = none ↔ entries = [] := by
  cases entries with
  | nil => simp [oldest?]
  | cons first rest =>
    rw [oldest?]
    split
    · simp
    · split <;> simp

theorem oldest?_spec {entries : List Entry} {e : Entry} (found : oldest? entries = some e) :
    e ∈ entries ∧ ∀ other ∈ entries, e.stamp ≤ other.stamp := by
  induction entries generalizing e with
  | nil => contradiction
  | cons first rest ih =>
    rw [oldest?] at found
    split at found
    · rename_i none
      obtain rfl := Option.some.inj found
      simp [oldest?_eq_none.mp none]
    · rename_i later least
      obtain ⟨member, lowest⟩ := ih least
      split at found
      · rename_i earlier
        obtain rfl := Option.some.inj found
        refine ⟨by simp, List.forall_mem_cons.mpr ⟨UInt64.le_refl _, fun other here => ?_⟩⟩
        exact UInt64.le_trans earlier (lowest other here)
      · rename_i earlier
        obtain rfl := Option.some.inj found
        refine ⟨by simp [member], List.forall_mem_cons.mpr ⟨?_, lowest⟩⟩
        exact UInt64.le_of_lt (UInt64.not_le.mp earlier)

namespace Ranked
variable {cache : Cache} {ranking : List Entry} (ranked : Ranked cache ranking)
include ranked

theorem mem_iff {e : Entry} : e ∈ ranking ↔ e ∈ cache.entries := ranked.perm.mem_iff

theorem around {e : Entry} {newer older : List Entry} (cut : ranking = newer ++ e :: older) :
    (∀ other ∈ newer, e.stamp < other.stamp) ∧ ∀ other ∈ older, other.stamp < e.stamp := by
  have falling := ranked.falling
  rw [cut, List.pairwise_append, List.pairwise_cons] at falling
  obtain ⟨_, ⟨below, _⟩, above⟩ := falling
  exact ⟨fun other here => above other here e (by simp), below⟩

theorem key_ne {e : Entry} {newer older : List Entry} (cut : ranking = newer ++ e :: older) :
    ∀ other ∈ newer ++ older, other.key ≠ e.key := by
  obtain ⟨above, below⟩ := ranked.around cut
  have kept : e ∈ ranking := by simp [cut]
  intro other member same
  rcases List.mem_append.mp member with here | here
  · obtain rfl := ranked.apart other (by simp [cut, here]) e kept same
    exact UInt64.lt_irrefl _ (above other here)
  · obtain rfl := ranked.apart other (by simp [cut, here]) e kept same
    exact UInt64.lt_irrefl _ (below other here)

theorem eq_of_stamp {a b : Entry} (first : a ∈ ranking) (second : b ∈ ranking)
    (same : a.stamp = b.stamp) : a = b := by
  obtain ⟨newer, older, cut⟩ := List.append_of_mem first
  obtain ⟨above, below⟩ := ranked.around cut
  rw [cut] at second
  rcases List.mem_append.mp second with here | here
  · exact absurd (above b here) (same ▸ UInt64.lt_irrefl _)
  · rcases List.mem_cons.mp here with rfl | here
    · rfl
    · exact absurd (below b here) (same ▸ UInt64.lt_irrefl _)

/-- The ranking is the only order in which the stamps fall. -/
theorem recency_eq : cache.recency = cache.view ranking := by
  have total : ∀ a b : Entry, a.notOlder b || b.notOlder a := by
    intro a b
    simpa [Entry.notOlder] using UInt64.le_total b.stamp a.stamp
  have trans : ∀ a b c : Entry, a.notOlder b → b.notOlder c → a.notOlder c := by
    intro a b c first second
    simp only [Entry.notOlder, decide_eq_true_eq] at first second ⊢
    exact UInt64.le_trans second first
  have sorted := List.pairwise_mergeSort trans total cache.entries
  have ordered : ranking.Pairwise fun a b => a.notOlder b :=
    ranked.falling.imp fun lower => decide_eq_true (UInt64.le_of_lt lower)
  have perm := (List.mergeSort_perm cache.entries Entry.notOlder).trans ranked.perm.symm
  -- No two stamps are equal, so two orders in which they do not rise are the same.
  refine congrArg cache.view (List.Perm.eq_of_pairwise ?_ sorted ordered perm)
  intro a b first second after before
  exact ranked.eq_of_stamp (perm.mem_iff.mp first) second
    (UInt64.le_antisymm (of_decide_eq_true before) (of_decide_eq_true after))

theorem find?_kept {e : Entry} (kept : e ∈ ranking) : cache.find? e.key = some e := by
  cases found : cache.find? e.key with
  | none =>
    have none := List.find?_eq_none.mp found e (ranked.mem_iff.mp kept)
    simp at none
  | some other =>
    have same : other.key = e.key := by simpa using List.find?_some found
    have member := ranked.mem_iff.mpr (List.mem_of_find?_eq_some found)
    rw [ranked.apart other member e kept same]

theorem find?_absent {key : Key} (absent : ∀ e ∈ ranking, e.key ≠ key) :
    cache.find? key = none := by
  refine List.find?_eq_none.mpr fun e member => ?_
  simpa using absent e (ranked.mem_iff.mpr member)

theorem lookup_kept {e : Entry} (kept : e ∈ ranking) :
    (ranking.map Entry.item).lookup e.key = some e.compiled := by
  obtain ⟨newer, older, cut⟩ := List.append_of_mem kept
  have parts : ranking.map Entry.item =
      newer.map Entry.item ++ (e.key, e.compiled) :: older.map Entry.item := by
    rw [cut, List.map_append]
    rfl
  refine List.lookup_eq_some_iff.mpr ⟨_, _, parts, ?_⟩
  intro item member
  obtain ⟨other, here, rfl⟩ := List.mem_map.mp member
  exact bne_iff_ne.mpr (ranked.key_ne cut other (List.mem_append_left _ here)).symm

omit ranked in
theorem lookup_absent {key : Key} (absent : ∀ e ∈ ranking, e.key ≠ key) :
    (ranking.map Entry.item).lookup key = none := by
  refine List.lookup_eq_none_iff.mpr fun item member => ?_
  obtain ⟨e, here, rfl⟩ := List.mem_map.mp member
  exact bne_iff_ne.mpr (absent e here).symm

/-- Entries are left out, and the clock may move on. -/
theorem sublist {next : Cache} {others : List Entry} (kept : others.Sublist ranking)
    (perm : others.Perm next.entries) (later : cache.clock ≤ next.clock)
    (capacity : next.capacity = cache.capacity) : Ranked next others where
  perm := perm
  falling := ranked.falling.sublist kept
  past e here := UInt64.le_trans (ranked.past e (kept.subset here)) later
  apart a first b second := ranked.apart a (kept.subset first) b (kept.subset second)
  fits := capacity ▸ Nat.le_trans kept.length_le ranked.fits

/-- No entry is stamped. -/
theorem touch_absent {key : Key} (absent : ∀ e ∈ ranking, e.key ≠ key)
    (ticks : cache.clock.toNat + 1 < UInt64.size) : Ranked (cache.touch key) ranking := by
  have same : (cache.touch key).entries = cache.entries :=
    map_restamp_absent (fun e member => absent e (ranked.mem_iff.mpr member)) _
  have later := UInt64.le_of_lt (lt_clock_succ (UInt64.le_refl cache.clock) ticks)
  exact ranked.sublist (List.Sublist.refl _) (same ▸ ranked.perm) later rfl

/-- What the clock has just stamped comes first, before any of the entries ranked so far. -/
theorem front {next : Cache} {latest : Entry} {others : List Entry}
    (kept : others.Sublist ranking) (fresh : ∀ e ∈ others, e.key ≠ latest.key)
    (stamped : latest.stamp = next.clock) (later : cache.clock < next.clock)
    (perm : (latest :: others).Perm next.entries)
    (fits : others.length < next.capacity.toNat) : Ranked next (latest :: others) where
  perm := perm
  falling := by
    refine List.pairwise_cons.mpr ⟨fun e member => ?_, ranked.falling.sublist kept⟩
    rw [stamped]
    exact UInt64.lt_of_le_of_lt (ranked.past e (kept.subset member)) later
  past := by
    refine List.forall_mem_cons.mpr ⟨stamped ▸ UInt64.le_refl _, fun e member => ?_⟩
    exact UInt64.le_trans (ranked.past e (kept.subset member)) (UInt64.le_of_lt later)
  apart := by
    intro a first b second same
    rcases List.mem_cons.mp first with rfl | inner <;>
      rcases List.mem_cons.mp second with rfl | inner'
    · rfl
    · exact absurd same.symm (fresh b inner')
    · exact absurd same (fresh a inner)
    · exact ranked.apart a (kept.subset inner) b (kept.subset inner') same
  fits := fits

/-- An entry that is looked up becomes the latest. -/
theorem touch_kept {e : Entry} {newer older : List Entry} (cut : ranking = newer ++ e :: older)
    (ticks : cache.clock.toNat + 1 < UInt64.size) :
    Ranked (cache.touch e.key) ({ e with stamp := cache.clock + 1 } :: (newer ++ older)) := by
  have others := ranked.key_ne cut
  have kept : (newer ++ older).Sublist ranking :=
    cut ▸ (List.sublist_cons_self e older).append_left newer
  have perm : ({ e with stamp := cache.clock + 1 } :: (newer ++ older)).Perm
      (cache.touch e.key).entries := by
    have before := map_restamp_absent
      (fun other here => others other (List.mem_append_left _ here)) (cache.clock + 1)
    have after := map_restamp_absent
      (fun other here => others other (List.mem_append_right _ here)) (cache.clock + 1)
    have restamped : ranking.map (restamp e.key (cache.clock + 1)) =
        newer ++ { e with stamp := cache.clock + 1 } :: older := by
      rw [cut, List.map_append, List.map_cons, before, after, restamp, if_pos rfl]
    rw [touch_entries]
    exact List.perm_middle.symm.trans (restamped ▸ ranked.perm.map _)
  have fits : (newer ++ older).length < (cache.touch e.key).capacity.toNat := by
    have room := ranked.fits
    rw [cut] at room
    simp only [List.length_append, List.length_cons] at room ⊢
    exact room
  exact ranked.front kept others rfl (lt_clock_succ (UInt64.le_refl _) ticks) perm fits

theorem oldest?_eq {last : Entry} {others : List Entry} (cut : ranking = others ++ [last]) :
    oldest? cache.entries = some last := by
  have kept : last ∈ cache.entries := ranked.mem_iff.mp (by simp [cut])
  cases found : oldest? cache.entries with
  | none =>
    rw [oldest?_eq_none.mp found] at kept
    contradiction
  | some oldest =>
    obtain ⟨member, least⟩ := oldest?_spec found
    have place := ranked.mem_iff.mpr member
    rw [cut, List.mem_append, List.mem_singleton] at place
    rcases place with here | rfl
    · have higher := (ranked.around cut).1 oldest here
      exact absurd (least last kept) (UInt64.not_le.mpr higher)
    · rfl

/-- What is evicted ranks last. -/
theorem evict {last : Entry} {others : List Entry} (cut : ranking = others ++ [last]) :
    Ranked cache.evict others := by
  have kept : others.Sublist ranking := cut ▸ List.sublist_append_left others [last]
  have remains : ranking.filter (fun e => e.key != last.key) = others := by
    have stay := filter_key (ranked.key_ne cut)
    rw [← cut, List.append_nil] at stay
    exact stay
  have perm : others.Perm (cache.entries.filter fun e => e.key != last.key) :=
    remains ▸ ranked.perm.filter _
  unfold Cache.evict
  rw [ranked.oldest?_eq cut]
  exact ranked.sublist kept perm (UInt64.le_refl _) rfl

/-- A full cache makes room, and a cache with room stays as it is. -/
theorem makeRoom (positive : cache.capacity ≠ 0) :
    let others := if ranking.length = cache.capacity.toNat then ranking.dropLast else ranking
    Ranked cache.makeRoom others ∧ others.Sublist ranking ∧
      others.length < cache.capacity.toNat := by
  have fits := ranked.fits
  have room : 0 < cache.capacity.toNat :=
    Nat.pos_of_ne_zero fun zero => positive (UInt64.toNat_inj.mp zero)
  intro others
  unfold others Cache.makeRoom
  rw [← ranked.perm.length_eq]
  by_cases full : ranking.length = cache.capacity.toNat
  · have nonempty : ranking ≠ [] := List.ne_nil_of_length_pos (full ▸ room)
    rw [if_pos full, if_pos (Nat.le_of_eq full.symm), List.length_dropLast]
    exact ⟨ranked.evict (List.dropLast_concat_getLast nonempty).symm, ranking.dropLast_sublist,
      by omega⟩
  · rw [if_neg full, if_neg (by omega)]
    exact ⟨ranked, .refl _, by omega⟩

end Ranked
end EntityCrud.Cache
