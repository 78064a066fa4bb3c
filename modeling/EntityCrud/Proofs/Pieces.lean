import EntityCrud.Proofs.Compilation
import EntityCrud.Proofs.Joined
/-! Where the text of a statement comes from. Each fragment of a statement is a fixed word, a name
that the plan holds, a reference to one of its columns, or the place of a hint or of a limit. -/
namespace EntityCrud

/-- The operation reads the table under its alias. -/
def Operation.showsAlias : Operation → Bool
  | .exists | .select => true
  | .delete | .insert | .update => false

namespace Sql
open Fragment

/-- The texts that are the same in all statements. -/
def fixedWords : List String :=
  ["SELECT 1 FROM ", "DELETE FROM ", "INSERT INTO ", " (", ") VALUES (", ")", "UPDATE ", " SET ",
    "SELECT ", " FROM ", " AS ", " WHERE ", " = ", " AND ", ", "]

inductive Piece (plan : Plan) : Fragment → Prop where
  | word {text : String} (fixed : text ∈ fixedWords) : Piece plan (.word text)
  | table : Piece plan (.name plan.table)
  | tableAlias {shown : String} (shows : plan.operation.showsAlias = true)
      (declared : plan.aliasName = some shown) : Piece plan (.name shown)
  | column {c : Column} (placed : c ∈ plan.predicate.columns ++ plan.payload.columns) :
      Piece plan (.name c.name)
  | columnAlias {c : Column} {shown : String} (placed : c ∈ plan.payload.columns)
      (declared : c.aliasName = some shown) : Piece plan (.name shown)
  | slot {c : Column} (placed : c ∈ plan.predicate.columns ++ plan.payload.columns) :
      Piece plan (.slot c)
  | hint : Piece plan .hint
  | limitHead (n : UInt32) : Piece plan (.limitHead n)
  | limitTail (n : UInt32) : Piece plan (.limitTail n)

theorem of_mem_separated {text : String} {part : Column → List Fragment} {columns : List Column}
    {f : Fragment} (member : f ∈ separated text (columns.map part)) :
    f = .word text ∨ ∃ c ∈ columns, f ∈ part c := by
  rcases of_mem_intercalate member with between | ⟨_, listed, inside⟩
  · exact .inl (List.mem_singleton.mp between)
  · obtain ⟨c, here, rfl⟩ := List.mem_map.mp listed
    exact .inr ⟨c, here, inside⟩

theorem word_not_mem_separated {word text : String} {part : Column → List Fragment}
    (other : text ≠ word) (absent : ∀ c, .word word ∉ part c) (columns : List Column) :
    .word word ∉ separated text (columns.map part) := by
  intro member
  rcases of_mem_separated member with same | ⟨c, _, inside⟩
  · exact other (Fragment.word.inj same).symm
  · exact absent c inside

namespace Piece
variable {plan : Plan}

/-- All fragments of a list of columns are pieces, if those of each column are. -/
theorem of_separated {text : String} {part : Column → List Fragment} {columns : List Column}
    (fixed : text ∈ fixedWords) (each : ∀ c ∈ columns, ∀ f ∈ part c, Piece plan f) :
    ∀ f ∈ separated text (columns.map part), Piece plan f := by
  intro f member
  rcases of_mem_separated member with rfl | ⟨c, here, inside⟩
  · exact .word fixed
  · exact each c here f inside

theorem of_equation {c : Column} (placed : c ∈ plan.predicate.columns ++ plan.payload.columns) :
    ∀ f ∈ equation c, Piece plan f := by
  simp only [equation, List.forall_mem_cons]
  exact ⟨.column placed, .word (by decide), .slot placed, by simp⟩

theorem of_projection {c : Column} (placed : c ∈ plan.payload.columns) :
    ∀ f ∈ projection c, Piece plan f := by
  have named : Piece plan (.name c.name) := .column (List.mem_append_right _ placed)
  unfold projection
  cases declared : c.aliasName with
  | none => simpa using named
  | some shown =>
    simp only [List.forall_mem_cons]
    exact ⟨named, .word (by decide), .columnAlias placed declared, by simp⟩

theorem of_source (shows : plan.operation.showsAlias = true) :
    ∀ f ∈ source plan, Piece plan f := by
  have locking : ∀ f ∈ (if plan.dirtyReads then [Fragment.hint] else []), Piece plan f := by
    split
    · simpa using Piece.hint
    · simp
  unfold source
  cases declared : plan.aliasName with
  | none =>
    refine List.forall_mem_cons.mpr ⟨.table, ?_⟩
    simpa using locking
  | some shown =>
    simp only [List.cons_append, List.forall_mem_cons]
    exact ⟨.table, .word (by decide), .tableAlias shows declared, locking⟩

theorem of_condition : ∀ f ∈ condition plan, Piece plan f := by
  refine List.forall_mem_cons.mpr ⟨.word (by decide), of_separated (by decide) ?_⟩
  intro c located
  exact of_equation (List.mem_append_left _ located)

theorem of_limit {make : UInt32 → Fragment} (each : ∀ n, Piece plan (make n)) :
    ∀ f ∈ limit make plan, Piece plan f := by
  unfold limit
  cases plan.readLimit with
  | none => simp
  | some n => simpa using each n

/-- Every fragment of a statement is one of the pieces. -/
theorem of_mem : ∀ f ∈ fragments plan, Piece plan f := by
  have carried {c : Column} (here : c ∈ plan.payload.columns) :
      c ∈ plan.predicate.columns ++ plan.payload.columns := List.mem_append_right _ here
  unfold fragments
  cases op : plan.operation with
  | «exists» =>
    simp only [List.cons_append, List.forall_mem_cons, List.forall_mem_append]
    exact ⟨.word (by decide), of_source (by rw [op]; rfl), of_condition⟩
  | delete =>
    simp only [List.forall_mem_cons]
    exact ⟨.word (by decide), .table, of_condition⟩
  | insert =>
    simp only [List.cons_append, List.forall_mem_cons, List.forall_mem_append, and_assoc]
    refine ⟨.word (by decide), .table, .word (by decide), of_separated (by decide) ?_,
      .word (by decide), of_separated (by decide) ?_, .word (by decide), by simp⟩
    · intro c here
      simpa using Piece.column (carried here)
    · intro c here
      simpa using Piece.slot (carried here)
  | update =>
    simp only [List.cons_append, List.forall_mem_cons, List.forall_mem_append]
    exact ⟨.word (by decide), .table, .word (by decide),
      of_separated (by decide) fun c here => of_equation (carried here), of_condition⟩
  | select =>
    simp only [List.cons_append, List.forall_mem_cons, List.forall_mem_append, and_assoc]
    exact ⟨.word (by decide), of_limit .limitHead, of_separated (by decide) fun c => of_projection,
      .word (by decide), of_source (by rw [op]; rfl), of_condition, of_limit .limitTail⟩

end Piece

theorem tableAlias_mem {plan : Plan} {shown : String} (shows : plan.operation.showsAlias = true)
    (declared : plan.aliasName = some shown) : .name shown ∈ fragments plan := by
  have listed : .name shown ∈ source plan := by simp [source, declared]
  unfold fragments
  cases op : plan.operation with
  | delete | insert | update =>
    rw [op] at shows
    contradiction
  | «exists» | select => simp [listed]

end Sql
end EntityCrud
