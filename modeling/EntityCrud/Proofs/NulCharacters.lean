import EntityCrud.Proofs.Characters
import EntityCrud.Proofs.Objections
/-! The character NUL. Tables, columns, their aliases and their parameters are looked at before a
statement is compiled, so nothing of theirs can bring the character into its text. The alias of a
table is looked at for blanks only, and it does bring in what it contains. -/
namespace EntityCrud
open Sql (DialectName Fragment)
open Text (HasNul)

namespace Sql

theorem hasNul_append {a b : String} : HasNul (a ++ b) ↔ HasNul a ∨ HasNul b := by
  unfold HasNul
  rw [String.toList_append, List.mem_append]

section
variable {dialect : DialectName}

theorem inert_nul : Inert dialect '\x00' := by
  cases dialect <;> constructor <;> decide

theorem not_hasNul_placeholder {parameter : String} (named : isParameterName parameter = true)
    (place : Nat) : ¬ HasNul (dialect.dialect.placeholder parameter place) := by
  obtain ⟨word, spelled, inner⟩ := @placeholder_eq_cons dialect parameter named place
  rw [HasNul, spelled, List.mem_cons]
  rintro (first | later)
  · cases dialect <;> contradiction
  · exact absurd (inner _ later) (by decide)

namespace Fragment
variable {names : List String} {encapsulate : Bool} {place : Nat}

/-- Nothing but a name can bring the character in. -/
theorem hasNul_spell_singleton {f : Fragment} (sound : f.Sound names) :
    HasNul (spell dialect.dialect encapsulate place [f]) ↔ ∃ name, f = .name name ∧ HasNul name := by
  cases sound with
  | fixed fixed =>
    have absent : ¬ HasNul (spell dialect.dialect encapsulate place [f]) := fun nul =>
      absurd (fixed.structural dialect encapsulate place _ nul) (by decide)
    cases fixed <;> simpa using absent
  | name given => simp [spell, HasNul, mem_identifier_iff inert_nul]
  | slot named => simpa [spell] using not_hasNul_placeholder named place

theorem hasNul_spell_iff {fragments : List Fragment} (sound : ∀ f ∈ fragments, f.Sound names) :
    HasNul (spell dialect.dialect encapsulate place fragments) ↔
      ∃ name, .name name ∈ fragments ∧ HasNul name := by
  induction fragments generalizing place with
  | nil => simp [spell, HasNul]
  | cons f rest ih =>
    obtain ⟨first, others⟩ := List.forall_mem_cons.mp sound
    rw [← List.singleton_append, spell_append, hasNul_append, hasNul_spell_singleton first,
      ih others, ← exists_or]
    simp only [List.singleton_append, List.mem_cons, or_and_right, eq_comm]

end Fragment
end
end Sql

theorem Text.not_hasNul {s : String} (clean : hasNul s = false) : ¬ HasNul s := by
  rw [← Text.hasNul_iff, clean]
  decide

section
variable {op : Operation} {shape : Shape} {columns : List Column} {table : Table}
  {options : Options} (usable : Plan.fault? columns table options = none)
include usable

/-- Only the alias of the table can bring the character in through a name. -/
theorem Plan.hasNul_name_iff :
    (∃ name, .name name ∈ Sql.fragments (assemble op shape columns table options) ∧
        HasNul name) ↔
      op.showsAlias = true ∧ ∃ shown ∈ effectiveAlias table options, HasNul shown := by
  constructor
  · rintro ⟨name, member, nul⟩
    cases Sql.Piece.of_mem _ member with
    | table =>
      obtain ⟨_, named, _⟩ := fault?_eq_none_iff.mp usable
      exact absurd nul (Text.not_hasNul named)
    | tableAlias shows declared => exact ⟨shows, name, declared, nul⟩
    | column placed =>
      obtain ⟨_, named, _⟩ := Column.fault?_eq_none_iff.mp (fault?_of_placed usable placed)
      exact absurd nul (Text.not_hasNul named)
    | columnAlias placed declared =>
      obtain ⟨_, _, _, shown⟩ :=
        Column.fault?_eq_none_iff.mp (fault?_of_placed usable (List.mem_append_right _ placed))
      exact absurd nul (Text.not_hasNul (shown name declared).2)
  · rintro ⟨shows, shown, declared, nul⟩
    exact ⟨shown, Sql.tableAlias_mem shows declared, nul⟩

end

namespace Statement

/-- A statement contains the character NUL exactly if it shows an alias of its table that does.
Nothing else that it is compiled from can bring in the character, quoted or not. -/
theorem compile_hasNul_iff {op : Operation} {shape : Shape} {columns : List Column}
    {table : Table} {options : Options} {s : Statement}
    (compiled : compile op shape columns table options = .ok s) :
    HasNul s.sql ↔
      op.showsAlias = true ∧ ∃ shown ∈ Plan.effectiveAlias table options, HasNul shown := by
  obtain ⟨usable, _, rendered, rfl⟩ := compile_eq_ok_iff.mp compiled
  obtain ⟨_, _, rfl⟩ := ofPlan_eq_ok_iff.mp rendered
  let plan := Plan.assemble op shape columns table options
  have spelled : Form.text options.dialect.dialect plan (plan.bound.zipIdx 1) =
      Fragment.spell options.dialect.dialect plan.encapsulate 1 (Sql.fragments plan) :=
    (Fragment.spell_fragments _ plan).symm
  have sound : ∀ f ∈ Sql.fragments plan, f.Sound (givenNames columns table options) :=
    Plan.sound_fragments usable
  calc HasNul (Form.text options.dialect.dialect plan (plan.bound.zipIdx 1))
    _ ↔ ∃ name, .name name ∈ Sql.fragments plan ∧ HasNul name := by
      rw [spelled]
      exact Fragment.hasNul_spell_iff sound
    _ ↔ _ := Plan.hasNul_name_iff usable

/-- The alias of the options hides the alias of the table, and an update shows neither. -/
theorem hidden_aliases_harmless :
    (∃ s, compile .select .single [{ name := "Id", primaryKey := true }, { name := "Note" }]
        { name := "T", aliasName := some "t\x00" } { tableAlias := some "t" } = .ok s ∧
          ¬ HasNul s.sql) ∧
      ∃ s, compile .update .single [{ name := "Id", primaryKey := true }, { name := "Note" }]
        { name := "T", aliasName := some "t\x00" } {} = .ok s ∧ ¬ HasNul s.sql := by
  have selected : compile .select .single [{ name := "Id", primaryKey := true }, { name := "Note" }]
    { name := "T", aliasName := some "t\x00" } { tableAlias := some "t" } = .ok _ := rfl
  have updated : compile .update .single [{ name := "Id", primaryKey := true }, { name := "Note" }]
    { name := "T", aliasName := some "t\x00" } {} = .ok _ := rfl
  refine ⟨⟨_, selected, fun nul => ?_⟩, _, updated, fun nul => ?_⟩
  · obtain ⟨_, shown, declared, inside⟩ := (compile_hasNul_iff selected).mp nul
    obtain rfl : "t" = shown := Option.some.inj declared
    exact absurd inside (by decide)
  · exact absurd ((compile_hasNul_iff updated).mp nul).1 (by decide)

theorem alias_reaches_text : ∃ s,
    compile .exists .single [{ name := "Id", primaryKey := true }]
        { name := "T", aliasName := some "t\x00" } {} = .ok s ∧ HasNul s.sql :=
  ⟨{ sql := "SELECT 1 FROM T AS t\x00 WITH (NOLOCK) WHERE Id = @Id"
     parameters := [{ column := { name := "Id", primaryKey := true } }] }, rfl, by decide⟩

end Statement
end EntityCrud
