import EntityCrud.Column.Basic
/-! Columns that own their names. No two columns of the list share a column name or a
parameter name, and a column joins only if nobody before it owns either name. -/
namespace EntityCrud

/-- Columns in the order in which they joined, no two of which clash. -/
structure Owners where
  columns : List Column
  apart : columns.Pairwise fun a b => ¬ a.Clashes b
  deriving DecidableEq, Repr

namespace Owners

def empty : Owners := ⟨[], .nil⟩

instance : Inhabited Owners := ⟨empty⟩

def ownsName (owners : Owners) (name : String) : Bool :=
  owners.columns.any fun owner => owner.name == name

def ownsParameter (owners : Owners) (parameter : String) : Bool :=
  owners.columns.any fun owner => owner.parameter == parameter

def blocks (owners : Owners) (c : Column) : Bool :=
  owners.ownsName c.name || owners.ownsParameter c.parameter

theorem blocks_iff {owners : Owners} {c : Column} :
    owners.blocks c = true ↔ ∃ owner ∈ owners.columns, owner.Clashes c := by
  simp only [blocks, ownsName, ownsParameter, Bool.or_eq_true, List.any_eq_true, beq_iff_eq,
    Column.Clashes]
  constructor
  · rintro (⟨owner, here, same⟩ | ⟨owner, here, same⟩)
    · exact ⟨owner, here, .inl same⟩
    · exact ⟨owner, here, .inr same⟩
  · rintro ⟨owner, here, same | same⟩
    · exact .inl ⟨owner, here, same⟩
    · exact .inr ⟨owner, here, same⟩

private theorem apart_append {owners : Owners} {c : Column} (free : ¬ owners.blocks c = true) :
    (owners.columns ++ [c]).Pairwise fun a b => ¬ a.Clashes b := by
  refine List.pairwise_append.mpr ⟨owners.apart, List.pairwise_singleton _ _, ?_⟩
  intro owner here other there clash
  rw [List.mem_singleton] at there
  exact free (blocks_iff.mpr ⟨owner, here, there ▸ clash⟩)

/-- The column joins at the end unless one of its names is owned. -/
def insert (owners : Owners) (c : Column) : Owners :=
  if free : owners.blocks c = true then owners else ⟨owners.columns ++ [c], apart_append free⟩

def insertAll (owners : Owners) (columns : List Column) : Owners := columns.foldl insert owners

/-- Inserts a column and says whether it has joined. -/
def join (owners : Owners) (c : Column) : Bool × Owners := (!owners.blocks c, owners.insert c)

/-- What the insertions in turn say, and the columns after them. -/
def joinAll (owners : Owners) : List Column → List Bool × Owners
  | [] => ([], owners)
  | c :: rest =>
    let (joined, owners) := owners.join c
    let (others, owners) := owners.joinAll rest
    (joined :: others, owners)

/-- The columns that come first to both of their names. -/
def ofColumns (columns : List Column) : Owners := empty.insertAll columns

def size (owners : Owners) : Nat := owners.columns.length

def isEmpty (owners : Owners) : Bool := owners.columns.isEmpty

def names (owners : Owners) : List String := owners.columns.map Column.name

def parameters (owners : Owners) : List String := owners.columns.map Column.parameter

theorem columns_insert (owners : Owners) (c : Column) :
    (owners.insert c).columns =
      if owners.blocks c then owners.columns else owners.columns ++ [c] := by
  unfold insert
  split <;> simp_all

end Owners
end EntityCrud
