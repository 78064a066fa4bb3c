import EntityCrud.Column.Owners
import Mathlib.Data.List.Pairwise
/-! First writers. A scan from left to right keeps each column that clashes with none kept
before it; the columns that own their names are exactly these, in their order. -/
namespace EntityCrud

/-- What the scan keeps of a list, next to the columns it has kept already. -/
def firstWritersAfter (kept : List Column) : List Column → List Column
  | [] => []
  | c :: rest =>
    if ∃ owner ∈ kept, owner.Clashes c then firstWritersAfter kept rest
    else c :: firstWritersAfter (kept ++ [c]) rest

/-- The columns that come first to both of their names. -/
def firstWriters (columns : List Column) : List Column := firstWritersAfter [] columns

theorem firstWritersAfter_sublist (kept columns : List Column) :
    (firstWritersAfter kept columns).Sublist columns := by
  induction columns generalizing kept with
  | nil => exact .slnil
  | cons c rest ih =>
    unfold firstWritersAfter
    split
    · exact (ih kept).cons c
    · exact (ih (kept ++ [c])).cons_cons c

/-- Where no column clashes with an earlier one, a scan drops only what clashes with a kept one. -/
theorem firstWritersAfter_eq_filter {kept columns : List Column}
    (apart : columns.Pairwise fun a b => ¬ a.Clashes b) :
    firstWritersAfter kept columns =
      columns.filter fun c => ¬ ∃ owner ∈ kept, owner.Clashes c := by
  induction columns generalizing kept with
  | nil => rfl
  | cons c rest ih =>
    obtain ⟨first, apart⟩ := List.pairwise_cons.mp apart
    unfold firstWritersAfter
    by_cases clash : ∃ owner ∈ kept, owner.Clashes c
    · rw [if_pos clash, List.filter_cons_of_neg (by simpa using clash)]
      exact ih apart
    · rw [if_neg clash, List.filter_cons_of_pos (by simpa using clash), ih apart]
      -- Joining the kept columns, the column clashes with none of the rest.
      congr 1
      apply List.filter_congr
      intro other member
      simp [first other member]

/-- A scan drops nothing where no column clashes with an earlier or with a kept one. -/
theorem firstWritersAfter_eq_self {kept columns : List Column}
    (free : ∀ owner ∈ kept, ∀ c ∈ columns, ¬ owner.Clashes c)
    (apart : columns.Pairwise fun a b => ¬ a.Clashes b) :
    firstWritersAfter kept columns = columns := by
  rw [firstWritersAfter_eq_filter apart, List.filter_eq_self]
  intro c member
  apply decide_eq_true
  rintro ⟨owner, here, clash⟩
  exact free owner here c member clash

theorem firstWritersAfter_append (kept before after : List Column) :
    firstWritersAfter kept (before ++ after) =
      firstWritersAfter kept before ++
        firstWritersAfter (kept ++ firstWritersAfter kept before) after := by
  induction before generalizing kept with
  | nil => simp [firstWritersAfter]
  | cons c rest ih =>
    simp only [List.cons_append, firstWritersAfter]
    split
    · exact ih kept
    · rw [ih (kept ++ [c]), List.append_assoc, List.singleton_append, List.cons_append]

theorem firstWriters_append (before after : List Column) :
    firstWriters (before ++ after) =
      firstWriters before ++ firstWritersAfter (firstWriters before) after :=
  firstWritersAfter_append [] before after

/-- What keeps clashes keeps the scan. -/
theorem firstWritersAfter_map {f : Column → Column}
    (clashes : ∀ a b, (f a).Clashes (f b) ↔ a.Clashes b) (kept columns : List Column) :
    firstWritersAfter (kept.map f) (columns.map f) = (firstWritersAfter kept columns).map f := by
  induction columns generalizing kept with
  | nil => rfl
  | cons c rest ih =>
    have taken : (∃ owner ∈ kept.map f, owner.Clashes (f c)) ↔ ∃ owner ∈ kept, owner.Clashes c := by
      simp [clashes]
    have joined : kept.map f ++ [f c] = (kept ++ [c]).map f := by simp
    simp only [List.map_cons, firstWritersAfter, taken, joined, ih]
    split <;> rfl

theorem firstWriters_map {f : Column → Column}
    (clashes : ∀ a b, (f a).Clashes (f b) ↔ a.Clashes b) (columns : List Column) :
    firstWriters (columns.map f) = (firstWriters columns).map f :=
  firstWritersAfter_map clashes [] columns

namespace Owners

theorem columns_insertAll (owners : Owners) (columns : List Column) :
    (owners.insertAll columns).columns =
      owners.columns ++ firstWritersAfter owners.columns columns := by
  induction columns generalizing owners with
  | nil => simp [insertAll, firstWritersAfter]
  | cons c rest ih =>
    have step : owners.insertAll (c :: rest) = (owners.insert c).insertAll rest := rfl
    rw [step, ih, columns_insert, firstWritersAfter]
    by_cases taken : owners.blocks c = true
    · rw [if_pos taken, if_pos (blocks_iff.mp taken)]
    · rw [if_neg taken, if_neg fun clash => taken (blocks_iff.mpr clash), List.append_assoc,
        List.singleton_append]

theorem columns_ofColumns (columns : List Column) :
    (ofColumns columns).columns = firstWriters columns := by
  simp [ofColumns, columns_insertAll, empty, firstWriters]

theorem mem_of_mem_ofColumns {columns : List Column} {c : Column}
    (owner : c ∈ (ofColumns columns).columns) : c ∈ columns := by
  rw [columns_ofColumns] at owner
  exact (firstWritersAfter_sublist [] columns).subset owner

end Owners

theorem firstWriters_apart (columns : List Column) :
    (firstWriters columns).Pairwise fun a b => ¬ a.Clashes b :=
  Owners.columns_ofColumns columns ▸ (Owners.ofColumns columns).apart

/-- Among first writers nobody loses. -/
theorem firstWriters_firstWriters (columns : List Column) :
    firstWriters (firstWriters columns) = firstWriters columns :=
  firstWritersAfter_eq_self (by simp) (firstWriters_apart columns)

/-- A column that loses a name to one before it takes neither of its names from those after it. -/
theorem firstWriters_insert {before : List Column} {c : Column}
    (loses : ∃ owner ∈ firstWriters before, owner.Clashes c) (after : List Column) :
    firstWriters (before ++ c :: after) = firstWriters (before ++ after) := by
  rw [firstWriters_append, firstWriters_append, firstWritersAfter, if_pos loses]

theorem firstWriters_eq_nil_iff {columns : List Column} :
    firstWriters columns = [] ↔ columns = [] := by
  cases columns <;> simp [firstWriters, firstWritersAfter]

theorem clashes_self (c : Column) : c.Clashes c := .inl rfl

theorem Column.Clashes.symm {a b : Column} (clash : a.Clashes b) : b.Clashes a :=
  clash.imp Eq.symm Eq.symm

instance : Std.Symm fun a b : Column => ¬ a.Clashes b where
  symm _ _ apart clash := apart clash.symm

/-- First writers that clash are the same column. -/
theorem eq_of_clashes {columns : List Column} {a b : Column} (first : a ∈ firstWriters columns)
    (second : b ∈ firstWriters columns) (clash : a.Clashes b) : a = b := by
  by_contra different
  exact (firstWriters_apart columns).forall first second different clash

/-- Columns picked from first writers in their order are first writers of their own list. -/
theorem firstWriters_filter (admits : Column → Bool) (columns : List Column) :
    firstWriters ((firstWriters columns).filter admits) =
      (firstWriters columns).filter admits :=
  firstWritersAfter_eq_self (by simp) ((firstWriters_apart columns).filter admits)

/-- Of the picked first writers only a column itself can clash with it. -/
theorem exists_clashes_filter_iff {admits : Column → Bool} {columns : List Column} {c : Column}
    (first : c ∈ firstWriters columns) :
    (∃ owner ∈ (firstWriters columns).filter admits, owner.Clashes c) ↔ admits c = true := by
  constructor
  · rintro ⟨owner, member, clash⟩
    obtain ⟨other, admitted⟩ := List.mem_filter.mp member
    rwa [← eq_of_clashes other first clash]
  · intro admitted
    exact ⟨c, List.mem_filter.mpr ⟨first, admitted⟩, clashes_self c⟩

/-- A second pick from first writers adds the columns that the first one has left out. -/
theorem firstWriters_filter_append (early late : Column → Bool) (columns : List Column) :
    firstWriters ((firstWriters columns).filter early ++ (firstWriters columns).filter late) =
      (firstWriters columns).filter early ++
        (firstWriters columns).filter fun c => !early c && late c := by
  have apart := (firstWriters_apart columns).filter late
  rw [firstWriters_append, firstWriters_filter, firstWritersAfter_eq_filter apart,
    List.filter_filter]
  congr 1
  apply List.filter_congr
  intro c first
  have clash : decide (∃ owner ∈ (firstWriters columns).filter early, owner.Clashes c) = early c :=
    Bool.eq_iff_iff.mpr (decide_eq_true_iff.trans (exists_clashes_filter_iff first))
  rw [decide_not, clash]

end EntityCrud
