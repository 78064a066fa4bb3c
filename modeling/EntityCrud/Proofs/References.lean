import EntityCrud.Proofs.Characters
import EntityCrud.Proofs.RoutingTable
/-! References to parameters, found in the text. Every reference of a statement stands between gaps, so
a text that is cut wherever a word ends shows them as they were written. Only a name that contains the
sigil of the dialect can pass for one. -/
namespace EntityCrud
open Sql (Dialect DialectName Fragment)

namespace Sql

/-- The character is not one of the words that the sigil can introduce. -/
def separates (sigil c : Char) : Bool := !(c == sigil || Text.isWordRest c)

/-- The pieces of a text that begin with the sigil, where the text is cut at all other characters than
the sigil, ASCII letters, digits and underscores. -/
def sigiled (sigil : Char) (text : List Char) : List (List Char) :=
  (text.splitOnP (separates sigil)).filter fun piece => piece.head? == some sigil

def references (sigil : Char) (sql : String) : List String :=
  (sigiled sigil sql.toList).map String.ofList

section
variable {sigil : Char}

theorem sigiled_append {c : Char} (cuts : separates sigil c = true) (front back : List Char) :
    sigiled sigil (front ++ c :: back) = sigiled sigil front ++ sigiled sigil back := by
  rw [sigiled, List.splitOnP_append_cons front back cuts, List.filter_append]
  rfl

theorem of_mem_splitOnP {text piece : List Char} (cut : piece ∈ text.splitOnP (separates sigil)) :
    ∀ c ∈ piece, c ∈ text := by
  induction text generalizing piece with
  | nil =>
    obtain rfl : piece = [] := by simpa using cut
    simp
  | cons first rest ih =>
    rw [List.splitOnP_cons_eq_if_modifyHead] at cut
    split at cut
    · rcases List.mem_cons.mp cut with rfl | later
      · simp
      · intro c member
        exact List.mem_cons_of_mem first (ih later c member)
    · obtain ⟨head, tail, pieces⟩ :=
        List.exists_cons_of_ne_nil (List.splitOnP_ne_nil (separates sigil) rest)
      rw [pieces, List.modifyHead_cons] at cut
      rw [pieces] at ih
      intro c member
      rcases List.mem_cons.mp cut with rfl | later
      · rcases List.mem_cons.mp member with rfl | inner
        · exact List.mem_cons_self
        · exact List.mem_cons_of_mem first (ih List.mem_cons_self c inner)
      · exact List.mem_cons_of_mem first (ih (List.mem_cons_of_mem head later) c member)

theorem sigiled_eq_nil {text : List Char} (absent : sigil ∉ text) : sigiled sigil text = [] := by
  refine List.filter_eq_nil_iff.mpr fun piece cut begins => absent ?_
  exact of_mem_splitOnP cut sigil (List.mem_of_mem_head? (eq_of_beq begins))

theorem sigiled_append_silent {text : List Char} (absent : sigil ∉ text)
    (opening : ∀ c ∈ text.head?, separates sigil c = true) (front : List Char) :
    sigiled sigil (front ++ text) = sigiled sigil front := by
  cases text with
  | nil => rw [List.append_nil]
  | cons c rest =>
    have silent : sigiled sigil rest = [] :=
      sigiled_eq_nil fun member => absent (List.mem_cons_of_mem c member)
    rw [sigiled_append (opening c rfl), silent, List.append_nil]

theorem sigiled_word {word : List Char} (inner : ∀ c ∈ word, Text.isWordRest c = true) :
    sigiled sigil (sigil :: word) = [sigil :: word] := by
  have whole : (sigil :: word).splitOnP (separates sigil) = [sigil :: word] := by
    refine List.splitOnP_eq_singleton (List.forall_mem_cons.mpr ⟨by simp [separates], ?_⟩)
    intro c member
    simp [separates, inner c member]
  simp [sigiled, whole]

/-- A text without the sigil that a word cannot run into from either side. -/
structure Barrier (sigil : Char) (text : List Char) : Prop where
  absent : sigil ∉ text
  opening : ∃ c ∈ text.head?, separates sigil c = true
  closing : ∃ c ∈ text.getLast?, separates sigil c = true

theorem Barrier.sigiled_append {text : List Char} (barrier : Barrier sigil text)
    (front back : List Char) :
    sigiled sigil (front ++ text ++ back) = sigiled sigil front ++ sigiled sigil back := by
  obtain ⟨absent, ⟨c, head, opens⟩, last, ending, closes⟩ := barrier
  obtain ⟨rest, rfl⟩ := List.head?_eq_some_iff.mp head
  rw [List.append_assoc, List.cons_append, Sql.sigiled_append opens]
  congr 1
  rcases List.eq_nil_or_concat' rest with rfl | ⟨middle, other, rfl⟩
  · rfl
  · obtain rfl : other = last := by simpa [List.getLast?_cons] using ending
    have silent : sigiled sigil middle = [] := by
      refine sigiled_eq_nil fun member => absent ?_
      exact List.mem_cons_of_mem c (List.mem_append_left _ member)
    rw [List.append_assoc, List.singleton_append, Sql.sigiled_append closes, silent,
      List.nil_append]

end

/-- The word begins and ends with a gap. -/
def isBarrier (text : String) : Bool := text.toList.head?.any isGap && text.toList.getLast?.any isGap

section
variable {dialect : DialectName}

theorem separates_of_isGap {c : Char} (gap : isGap c = true) : separates dialect.sigil c = true := by
  simp only [isGap, List.contains_iff_mem, List.mem_cons, List.not_mem_nil, or_false] at gap
  cases dialect <;> rcases gap with rfl | rfl | rfl | rfl | rfl <;> decide

theorem sigil_ne_of_isStructural {c : Char} (structural : isStructural c = true) :
    dialect.sigil ≠ c := by
  rintro rfl
  cases dialect <;> contradiction

theorem inert_sigil : Inert dialect dialect.sigil := by
  cases dialect <;> constructor <;> decide

theorem barrier_of_isBarrier {text : String} (gaps : isBarrier text = true)
    (structural : ∀ c ∈ text.toList, isStructural c = true) :
    Barrier dialect.sigil text.toList := by
  obtain ⟨opening, closing⟩ := Bool.and_eq_true_iff.mp gaps
  obtain ⟨first, head, opens⟩ := (Option.any_eq_true _ _).mp opening
  obtain ⟨last, ending, closes⟩ := (Option.any_eq_true _ _).mp closing
  refine ⟨fun member => ?_, ⟨first, head, separates_of_isGap opens⟩,
    last, ending, separates_of_isGap closes⟩
  exact sigil_ne_of_isStructural (structural _ member) rfl

theorem opening_limitTail {encapsulate : Bool} {place : Nat} {n : UInt32} :
    ∀ c ∈ (Fragment.spell dialect.dialect encapsulate place [.limitTail n]).toList.head?,
      separates dialect.sigil c = true := by
  cases dialect with
  | sqlServer => exact nofun
  | postgres =>
    intro c head
    change c ∈ (" LIMIT " ++ toString n.toNat ++ "").toList.head? at head
    rw [String.toList_append, String.toList_append] at head
    obtain rfl : ' ' = c := Option.some.inj head
    decide

end

namespace Fragment

/-- Fragments in which something that ends a word stands between any two references. -/
inductive Spaced : List Fragment → Prop where
  | silent {fragments : List Fragment} (none : slots fragments = []) : Spaced fragments
  | mark (c : Column) : Spaced [.slot c]
  | apart {front back : List Fragment} {text : String} (before : Spaced front)
      (gaps : isBarrier text = true) (after : Spaced back) : Spaced (front ++ .word text :: back)
  | limited {front : List Fragment} (before : Spaced front) (n : UInt32) :
      Spaced (front ++ [.limitTail n])

namespace Spaced

theorem separated {text : String} {part : Column → List Fragment} (gaps : isBarrier text = true)
    (each : ∀ c, Spaced (part c)) (columns : List Column) :
    Spaced (separated text (columns.map part)) := by
  induction columns with
  | nil => exact .silent rfl
  | cons first rest ih =>
    cases rest with
    | nil => simpa [Fragment.separated] using each first
    | cons second rest =>
      rw [List.map_cons, List.map_cons, separated_cons_cons]
      exact .apart (each first) gaps ih

theorem equation (c : Column) : Spaced (equation c) := by
  have named : Spaced [.name c.name] := .silent rfl
  exact .apart named (by decide : isBarrier " = " = true) (.mark c)

theorem equations {text : String} (gaps : isBarrier text = true) (columns : List Column) :
    Spaced (Fragment.separated text (columns.map Fragment.equation)) :=
  separated gaps equation columns

theorem before (plan : Plan) (conditional : plan.operation ≠ .insert) :
    Spaced (Fragment.before plan) := by
  by_cases updates : plan.operation = .update
  · have opening : Spaced [.word "UPDATE ", .name plan.table] := .silent rfl
    have whole := opening.apart (by decide : isBarrier " SET " = true)
      (equations (by decide : isBarrier ", " = true) plan.payload.columns)
    simpa [Fragment.before, updates] using whole
  · refine .silent ?_
    rw [slots_before plan conditional]
    unfold Plan.assigned
    split
    · contradiction
    · rfl

theorem fragments (plan : Plan) : Spaced (Sql.fragments plan) := by
  by_cases inserts : plan.operation = .insert
  · have front : Spaced (.word "INSERT INTO " :: .name plan.table :: .word " (" ::
        Fragment.separated ", " (plan.payload.columns.map fun c => [.name c.name])) :=
      .silent (slots_names _ _)
    have values := separated (by decide : isBarrier ", " = true) mark plan.payload.columns
    have nothing : Spaced [] := .silent rfl
    have back := values.apart (by decide : isBarrier ")" = true) nothing
    have whole := front.apart (by decide : isBarrier ") VALUES (" = true) back
    simpa [Sql.fragments, inserts] using whole
  · have condition := equations (by decide : isBarrier " AND " = true) plan.predicate.columns
    have whole : Spaced (Fragment.before plan ++ Sql.condition plan) :=
      (before plan inserts).apart (by decide : isBarrier " WHERE " = true) condition
    rw [fragments_eq plan inserts]
    unfold after limit
    split
    · split
      · exact whole.limited _
      · simpa using whole
    · simpa using whole

end Spaced

section
variable {dialect : DialectName} {names : List String}
  (absent : ∀ name ∈ names, dialect.sigil ∉ name.toList) {encapsulate : Bool}
include absent

theorem sigil_not_mem_spell {fragments : List Fragment} (sound : ∀ f ∈ fragments, f.Sound names)
    (none : slots fragments = []) (place : Nat) :
    dialect.sigil ∉ (spell dialect.dialect encapsulate place fragments).toList := by
  induction fragments generalizing place with
  | nil => simp [spell]
  | cons f rest ih =>
    obtain ⟨first, others⟩ := List.forall_mem_cons.mp sound
    rw [← List.singleton_append, slots_append, List.append_eq_nil_iff] at none
    rw [← List.singleton_append, spell_append, String.toList_append, List.mem_append, not_or]
    refine ⟨?_, ih others none.2 _⟩
    cases first with
    | fixed fixed =>
      intro member
      exact sigil_ne_of_isStructural (fixed.structural dialect encapsulate place _ member) rfl
    | name given => simpa [spell, mem_identifier_iff inert_sigil] using absent _ given
    | slot named => simp [slots] at none

/-- The references that a text shows are those of its fragments, with their places. -/
theorem sigiled_spell {fragments : List Fragment} (spaced : Spaced fragments)
    (sound : ∀ f ∈ fragments, f.Sound names) (place : Nat) :
    sigiled dialect.sigil (spell dialect.dialect encapsulate place fragments).toList =
      ((slots fragments).zipIdx place).map fun b => (Form.mark dialect.dialect b).toList := by
  induction spaced generalizing place with
  | silent none =>
    rw [none, sigiled_eq_nil (sigil_not_mem_spell absent sound none place)]
    rfl
  | mark c =>
    cases sound _ List.mem_cons_self with
    | fixed fixed => contradiction
    | slot named =>
      obtain ⟨word, spelled, inner⟩ := @placeholder_eq_cons dialect _ named place
      have read := @sigiled_word dialect.sigil word inner
      rw [← spelled] at read
      simpa [spell, slots, Form.mark] using read
  | @apart front back text _ gaps _ first second =>
    simp only [List.forall_mem_append, List.forall_mem_cons] at sound
    obtain ⟨before, word, after⟩ := sound
    have structural : ∀ c ∈ text.toList, isStructural c = true := by
      cases word with
      | fixed fixed => cases fixed with
        | word structural => exact structural
    have barrier := @barrier_of_isBarrier dialect text gaps structural
    rw [spell_append, spell, String.toList_append, String.toList_append, ← List.append_assoc,
      barrier.sigiled_append, first before, second after, slots_append, List.zipIdx_append,
      List.map_append]
    rfl
  | @limited front _ n ih =>
    simp only [List.forall_mem_append] at sound
    have silent := @sigil_not_mem_spell dialect names absent encapsulate [.limitTail n] sound.2 rfl
      (place + (slots front).length)
    rw [spell_append, String.toList_append, slots_append,
      sigiled_append_silent silent opening_limitTail, ih sound.1 place]
    simp [slots]

theorem references_spell {fragments : List Fragment} (spaced : Spaced fragments)
    (sound : ∀ f ∈ fragments, f.Sound names) (place : Nat) :
    references dialect.sigil (spell dialect.dialect encapsulate place fragments) =
      ((slots fragments).zipIdx place).map (Form.mark dialect.dialect) := by
  rw [references, sigiled_spell absent spaced sound, List.map_map]
  refine List.map_congr_left fun b _ => ?_
  exact String.ofList_toList

end
end Fragment
end Sql

namespace Statement
variable {op : Operation} {shape : Shape} {columns : List Column} {table : Table}
  {options : Options} {s : Statement}

theorem references_sql (compiled : compile op shape columns table options = .ok s)
    (absent : ∀ name ∈ givenNames columns table options, options.dialect.sigil ∉ name.toList) :
    Sql.references options.dialect.sigil s.sql =
      ((s.parameters.map Parameter.column).zipIdx 1).map (Form.mark options.dialect.dialect) := by
  obtain ⟨usable, _, _, rfl⟩ := compile_eq_form_iff.mp compiled
  let plan := Plan.assemble op shape columns table options
  have sound : ∀ f ∈ Sql.fragments plan, f.Sound (givenNames columns table options) :=
    Plan.sound_fragments usable
  have shown := @Fragment.references_spell options.dialect _ absent plan.encapsulate _
    (.fragments plan) sound 1
  rw [Fragment.slots_fragments, Fragment.spell_fragments] at shown
  simpa [Function.comp_def] using shown

theorem parameterNames_nodup (compiled : compile op shape columns table options = .ok s) :
    s.parameterNames.Nodup := by
  obtain ⟨_, _, _, rfl⟩ := compile_eq_form_iff.mp compiled
  have distinct : ((Plan.assemble op shape columns table options).bound.map
      Column.parameter).Nodup :=
    Plan.nodup_map_bound (@Routing.parameters_nodup op shape columns options.bulkLoad)
  simpa [parameterNames, Function.comp_def, Parameter.name] using distinct

/-- The references to parameters can be read back from the text, quoted or not, if no name and no alias
contains the sigil of the dialect. Where they are names, they are the names of the parameters in their
order and none of them twice; where they are numbers, they count the parameters from one. -/
theorem compile_references {op : Operation} {shape : Shape} {columns : List Column} {table : Table}
    {options : Options} {s : Statement}
    (compiled : compile op shape columns table options = .ok s) :
    (options.dialect = .sqlServer →
      (∀ name ∈ givenNames columns table options, '@' ∉ name.toList) →
      Sql.references '@' s.sql = s.parameterNames ∧ s.parameterNames.Nodup) ∧
    (options.dialect = .postgres →
      (∀ name ∈ givenNames columns table options, '$' ∉ name.toList) →
      Sql.references '$' s.sql =
        (List.range' 1 s.parameters.length).map fun place => "$" ++ toString place) := by
  have shown := references_sql compiled
  constructor
  · intro dialect absent
    rw [dialect] at shown
    refine ⟨(shown absent).trans ?_, parameterNames_nodup compiled⟩
    have names := congrArg (List.map Column.parameter)
      (List.zipIdx_map_fst 1 (s.parameters.map Parameter.column))
    rw [List.map_map, List.map_map] at names
    exact names
  · intro dialect absent
    rw [dialect] at shown
    have places := List.zipIdx_map_snd 1 (s.parameters.map Parameter.column)
    rw [List.length_map] at places
    rw [← places, List.map_map]
    exact shown absent

/-- Bare names that look like references of the other dialect, and a limit after the last reference. -/
theorem misleading_names_passed :
    (∃ s, compile .update .single [{ name := "$1", parameter := "@_a", primaryKey := true },
          { name := "Net $2", parameter := "@Net" }] { name := "T" } {} = .ok s ∧
        s.sql = "UPDATE T SET Net $2 = @Net WHERE $1 = @_a" ∧
        Sql.references '@' s.sql = ["@Net", "@_a"]) ∧
      ∃ s, compile .select .single [{ name := "@_a", parameter := "@b", primaryKey := true },
          { name := "Id", primaryKey := true }, { name := "Net", aliasName := some "@b = " }]
          { name := "T" } { dialect := .postgres, readLimitEnabled := true, readLimit := 3 } = .ok s ∧
        s.sql = "SELECT Net AS @b =  FROM T WHERE @_a = $1 AND Id = $2 LIMIT 3" ∧
        Sql.references '$' s.sql = ["$1", "$2"] := by
  have updated : compile .update .single [{ name := "$1", parameter := "@_a", primaryKey := true },
    { name := "Net $2", parameter := "@Net" }] { name := "T" } {} = .ok _ := rfl
  have selected : compile .select .single [{ name := "@_a", parameter := "@b", primaryKey := true },
    { name := "Id", primaryKey := true }, { name := "Net", aliasName := some "@b = " }]
    { name := "T" } { dialect := .postgres, readLimitEnabled := true, readLimit := 3 } = .ok _ := rfl
  have names := (compile_references updated).1 rfl (by decide)
  have numbers := (compile_references selected).2 rfl (by decide)
  exact ⟨⟨_, updated, rfl, names.1⟩, _, selected, rfl, numbers⟩

end Statement
end EntityCrud
