import EntityCrud.Proofs.FirstWriters
import Mathlib.Order.Fin.Basic
import Mathlib.Data.Set.Pairwise.Basic
import Mathlib.Order.WellFounded
/-! Greedy choices. Columns join one after the other, and each insertion says whether its column did. The
places at which they did are the only choice of places such that no two chosen columns share a name and each
other column shares one of its names with a column chosen before it. -/
namespace EntityCrud

/-- Places of a list at which no two columns share a name, such that a column at any other place
shares one of its names with an earlier column at one of these. -/
structure Greedy (calls : List Column) (chosen : Set (Fin calls.length)) : Prop where
  names : chosen.Pairwise fun i j => calls[i].name ≠ calls[j].name
  parameters : chosen.Pairwise fun i j => calls[i].parameter ≠ calls[j].parameter
  others : ∀ i ∉ chosen, ∃ j ∈ chosen, j < i ∧ calls[j].Clashes calls[i]

section
variable {calls : List Column} {chosen : Set (Fin calls.length)}

/-- Whether a place is chosen depends on the places before it alone. -/
theorem greedy_iff :
    Greedy calls chosen ↔
      ∀ i, i ∈ chosen ↔ ∀ j ∈ chosen, j < i → ¬ calls[j].Clashes calls[i] := by
  constructor
  · intro greedy i
    constructor
    · intro here j there before clash
      rcases clash with name | parameter
      · exact greedy.names there here before.ne name
      · exact greedy.parameters there here before.ne parameter
    · intro free
      by_contra left
      obtain ⟨j, there, before, clash⟩ := greedy.others i left
      exact free j there before clash
  · intro decided
    have apart : chosen.Pairwise fun i j => ¬ calls[i].Clashes calls[j] := by
      intro i here j there different clash
      rcases lt_or_gt_of_ne different with before | after
      · exact (decided j).mp there i here before clash
      · exact (decided i).mp here j there after clash.symm
    refine ⟨apart.imp fun i j free same => free (.inl same),
      apart.imp fun i j free same => free (.inr same), ?_⟩
    intro i left
    by_contra none
    exact left ((decided i).mpr fun j there before clash => none ⟨j, there, before, clash⟩)

theorem Greedy.unique {chosen' : Set (Fin calls.length)} (first : Greedy calls chosen)
    (second : Greedy calls chosen') : chosen = chosen' := by
  ext i
  induction i using WellFoundedLT.induction with
  | ind i ih =>
    rw [greedy_iff.mp first i, greedy_iff.mp second i]
    constructor
    · intro free j there before
      exact free j ((ih j before).mpr there) before
    · intro free j there before
      exact free j ((ih j before).mp there) before

end

namespace Owners

theorem snd_joinAll (owners : Owners) (calls : List Column) :
    (owners.joinAll calls).2 = owners.insertAll calls := by
  induction calls generalizing owners with
  | nil => rfl
  | cons c rest ih => exact ih (owners.insert c)

theorem length_joinAll (owners : Owners) (calls : List Column) :
    (owners.joinAll calls).1.length = calls.length := by
  induction calls generalizing owners with
  | nil => rfl
  | cons c rest ih => exact congrArg Nat.succ (ih (owners.insert c))

/-- The owners stay first, and the columns that have joined follow in the order of the calls. -/
theorem columns_joinAll (owners : Owners) (calls : List Column) :
    (owners.joinAll calls).2.columns =
      owners.columns ++ ((calls.zip (owners.joinAll calls).1).filter Prod.snd).map Prod.fst := by
  induction calls generalizing owners with
  | nil => simp [joinAll]
  | cons c rest ih =>
    simp only [joinAll, join, ih, columns_insert]
    by_cases blocked : owners.blocks c = true
    · simp [blocked]
    · simp [blocked]

/-- A column joins if it clashes neither with an owner nor with a column that has joined before. -/
theorem joined_iff {owners : Owners} {calls : List Column} {i : Nat} {c : Column}
    (called : calls[i]? = some c) :
    (owners.joinAll calls).1[i]? = some true ↔
      (∀ owner ∈ owners.columns, ¬ owner.Clashes c) ∧
        ∀ j < i, ∀ earlier, calls[j]? = some earlier →
          (owners.joinAll calls).1[j]? = some true → ¬ earlier.Clashes c := by
  induction calls generalizing owners i with
  | nil => simp at called
  | cons first rest ih =>
    cases i with
    | zero =>
      obtain rfl : first = c := by simpa using called
      have free : owners.blocks first = false ↔
          ∀ owner ∈ owners.columns, ¬ owner.Clashes first := by
        rw [← Bool.not_eq_true, blocks_iff]
        simp
      simpa [joinAll, join] using free
    | succ i =>
      have next := @ih (owners.insert first) i called
      rw [columns_insert] at next
      simp only [joinAll, join, List.getElem?_cons_succ, next, Nat.forall_lt_succ_left,
        List.getElem?_cons_zero]
      -- The first column is an owner for the rest if it joins, and else it counts for nothing.
      by_cases blocked : owners.blocks first = true
      · simp [blocked]
      · simp [blocked, or_imp, forall_and, and_assoc]

/-- A column that does not join clashes with an owner or with a column that has joined before. -/
theorem rejected_by {owners : Owners} {calls : List Column} {i : Nat} {c : Column}
    (called : calls[i]? = some c) (rejected : (owners.joinAll calls).1[i]? = some false) :
    (∃ owner ∈ owners.columns, owner.Clashes c) ∨
      ∃ j < i, ∃ earlier : Column, calls[j]? = some earlier ∧
        (owners.joinAll calls).1[j]? = some true ∧ earlier.Clashes c := by
  by_contra none
  obtain ⟨free, free'⟩ := not_or.mp none
  have joined : (owners.joinAll calls).1[i]? = some true := by
    refine (joined_iff called).mpr ⟨?_, ?_⟩
    · intro owner here clash
      exact free ⟨owner, here, clash⟩
    · intro j before earlier call joined clash
      exact free' ⟨j, before, earlier, call, joined, clash⟩
  rw [joined] at rejected
  contradiction

theorem greedy_joined (calls : List Column) :
    Greedy calls {i | (empty.joinAll calls).1[i.val]? = some true} := by
  rw [greedy_iff]
  intro i
  rw [Set.mem_ofPred_eq, joined_iff (List.getElem?_eq_getElem i.isLt)]
  constructor
  · rintro ⟨_, free⟩ j joined before
    exact free j before _ (List.getElem?_eq_getElem j.isLt) joined
  · intro free
    refine ⟨by simp [empty], ?_⟩
    intro j before earlier call joined
    obtain ⟨inside, rfl⟩ := List.getElem?_eq_some_iff.mp call
    exact free ⟨j, inside⟩ joined before

/-- The columns that join an empty collection are those whose insertions say so, in the order of the
calls, and no name is among them twice. A column that does not join shares a name with one that has
joined before it, and no other choice of places is greedy. -/
theorem joinAll_greedy (calls : List Column) :
    let answers := (empty.joinAll calls).1
    let entries := (empty.joinAll calls).2.columns
    (empty.joinAll calls).2 = ofColumns calls ∧ answers.length = calls.length ∧
      entries = ((calls.zip answers).filter Prod.snd).map Prod.fst ∧
      (entries.map Column.name).Nodup ∧ (entries.map Column.parameter).Nodup ∧
      (∀ (i : Nat) (c : Column), calls[i]? = some c → answers[i]? = some false →
        ∃ j < i, ∃ earlier : Column, calls[j]? = some earlier ∧ answers[j]? = some true ∧
          earlier.Clashes c) ∧
      ∀ chosen : Set (Fin calls.length),
        Greedy calls chosen ↔ chosen = {i | answers[i.val]? = some true} := by
  intro answers entries
  have apart : entries.Pairwise fun a b => ¬ a.Clashes b := (empty.joinAll calls).2.apart
  refine ⟨snd_joinAll empty calls, length_joinAll empty calls, columns_joinAll empty calls,
    ?_, ?_, ?_, ?_⟩
  · exact List.pairwise_map.mpr (apart.imp fun free same => free (.inl same))
  · exact List.pairwise_map.mpr (apart.imp fun free same => free (.inr same))
  · intro i c called rejected
    rcases rejected_by called rejected with ⟨owner, here, _⟩ | earlier
    · contradiction
    · exact earlier
  · intro chosen
    constructor
    · intro greedy
      exact greedy.unique (greedy_joined calls)
    · rintro rfl
      exact greedy_joined calls

/-- The second column is left out, so the name of its own that it does not share stays free. -/
example : (empty.joinAll [{ name := "Id" }, { name := "Code", parameter := "@Id" },
    { name := "Code" }, { name := "Kind", parameter := "@Code" }]).1 =
      [true, false, true, false] := by
  decide

end Owners
end EntityCrud
