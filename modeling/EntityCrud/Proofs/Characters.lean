import EntityCrud.Proofs.Compilation
import EntityCrud.Proofs.Decoding.Texts
import EntityCrud.Proofs.Pieces
/-! The characters of a statement. Its names and its references aside, a statement consists of letters,
digits, blanks, commas, parentheses and equals signs, and a quoted name adds to the name its delimiters
only. Any other character of a text is therefore one of a name. -/
namespace EntityCrud
open Sql (Dialect DialectName Delimiters Fragment)

/-- The names that a statement can show: those of the table and of the columns, and their aliases. -/
def givenNames (columns : List Column) (table : Table) (options : Options) : List String :=
  table.name :: ((Plan.effectiveAlias table options).toList ++
    columns.flatMap fun c => c.name :: c.aliasName.toList)

namespace Sql

/-- A character at which a word ends. -/
def isGap (c : Char) : Bool := [' ', ',', '(', ')', '='].contains c

/-- The characters of what stands between the names and the references of a statement. -/
def isStructural (c : Char) : Bool := c.isAlphanum || isGap c

theorem isStructural_of_all {text : String} (all : text.toList.all isStructural = true) :
    ∀ c ∈ text.toList, isStructural c = true :=
  List.all_eq_true.mp all

theorem isDigit_of_mem_number {n : Nat} {c : Char} (member : c ∈ (toString n).toList) :
    c.isDigit = true := by
  have digits : (toString n).toList = Nat.toDigits 10 n := Nat.toList_repr
  rw [digits] at member
  exact Nat.isDigit_of_mem_toDigits (by decide) (by decide) member

theorem isStructural_number (n : Nat) : ∀ c ∈ (toString n).toList, isStructural c = true := by
  intro c member
  simp [isStructural, Char.isAlphanum, isDigit_of_mem_number member]

theorem isStructural_append {a b : String} (first : ∀ c ∈ a.toList, isStructural c = true)
    (second : ∀ c ∈ b.toList, isStructural c = true) :
    ∀ c ∈ (a ++ b).toList, isStructural c = true := by
  intro c member
  rw [String.toList_append] at member
  rcases List.mem_append.mp member with front | back
  · exact first c front
  · exact second c back

/-- What introduces a reference to a parameter. -/
def DialectName.sigil : DialectName → Char
  | .sqlServer => '@'
  | .postgres => '$'

theorem Delimiters.mem_quote_iff {d : Delimiters} {c : Char} {part : List Char}
    (opening : c ≠ d.opening) (closing : c ≠ d.closing) : c ∈ d.quote part ↔ c ∈ part := by
  have inner : c ∈ d.doubled part ↔ c ∈ part := by
    unfold doubled
    rw [List.mem_flatMap]
    constructor
    · rintro ⟨other, here, copied⟩
      split at copied <;> simp_all
    · intro here
      exact ⟨c, here, by simp [closing]⟩
  simp [quote, opening, closing, inner]

section
variable {dialect : DialectName}

theorem toList_identifier (name : String) :
    (dialect.dialect.identifier true name).toList =
      ['.'].intercalate ((name.toList.splitOn '.').map dialect.delimiters.quote) := by
  cases dialect <;> exact toList_dotted name

/-- The character is neither a delimiter nor a dot. -/
structure Inert (dialect : DialectName) (x : Char) : Prop where
  opening : x ≠ dialect.delimiters.opening
  closing : x ≠ dialect.delimiters.closing
  dot : x ≠ '.'

/-- Delimiters and dots are all that an identifier adds to its name. -/
theorem mem_identifier_iff {x : Char} (inert : Inert dialect x) {encapsulate : Bool}
    {name : String} :
    x ∈ (dialect.dialect.identifier encapsulate name).toList ↔ x ∈ name.toList := by
  cases encapsulate with
  | false => exact Iff.rfl
  | true =>
    have dot : x ∉ ['.'] := by simpa using inert.dot
    have bare : x ∈ ['.'].intercalate (name.toList.splitOn '.') ↔
        ∃ part ∈ name.toList.splitOn '.', x ∈ part := mem_intercalate_iff dot
    rw [List.intercalate_splitOn] at bare
    rw [toList_identifier, mem_intercalate_iff dot, bare]
    simp [Delimiters.mem_quote_iff inert.opening inert.closing]

/-- A reference is a sigil and a word. -/
theorem placeholder_eq_cons {parameter : String} (named : isParameterName parameter = true)
    (place : Nat) : ∃ word, (dialect.dialect.placeholder parameter place).toList =
      dialect.sigil :: word ∧ ∀ c ∈ word, Text.isWordRest c = true := by
  cases dialect with
  | sqlServer =>
    unfold isParameterName at named
    split at named
    · rename_i first rest spelled
      rw [Bool.and_eq_true, List.all_eq_true] at named
      refine ⟨first :: rest, spelled, List.forall_mem_cons.mpr ⟨?_, named.2⟩⟩
      exact isWordRest_of_isWordStart named.1
    · contradiction
  | postgres =>
    refine ⟨(toString place).toList, String.toList_append, ?_⟩
    intro c member
    simp [Text.isWordRest, Char.isAlphanum, isDigit_of_mem_number member]

end

namespace Fragment

/-- Fragments that are spelled alike whatever the names and the parameters are. -/
inductive Fixed : Fragment → Prop where
  | word {text : String} (structural : ∀ c ∈ text.toList, isStructural c = true) : Fixed (.word text)
  | hint : Fixed .hint
  | limitHead (n : UInt32) : Fixed (.limitHead n)
  | limitTail (n : UInt32) : Fixed (.limitTail n)

/-- A fragment as statements of usable arguments have them. -/
inductive Sound (names : List String) : Fragment → Prop where
  | fixed {f : Fragment} (fixed : Fixed f) : Sound names f
  | name {text : String} (given : text ∈ names) : Sound names (.name text)
  | slot {c : Column} (named : isParameterName c.parameter = true) : Sound names (.slot c)

theorem Fixed.spell_eq {f : Fragment} (fixed : Fixed f) (d : Dialect) (encapsulate : Bool)
    (place : Nat) : spell d encapsulate place [f] = spell d false 1 [f] := by
  cases fixed <;> rfl

theorem Fixed.structural {f : Fragment} (fixed : Fixed f) (dialect : DialectName)
    (encapsulate : Bool) (place : Nat) :
    ∀ c ∈ (spell dialect.dialect encapsulate place [f]).toList, isStructural c = true := by
  have nothing : ∀ c ∈ "".toList, isStructural c = true := by simp
  cases fixed with
  | word structural => exact isStructural_append structural nothing
  | hint =>
    cases dialect with
    | sqlServer =>
      exact @isStructural_of_all (" " ++ "WITH (NOLOCK)" ++ "") (by decide)
    | postgres => exact nothing
  | limitHead n =>
    refine isStructural_append ?_ nothing
    cases dialect with
    | sqlServer =>
      have opening := @isStructural_of_all "TOP (" (by decide)
      have closing := @isStructural_of_all ") " (by decide)
      exact isStructural_append (isStructural_append opening (isStructural_number n.toNat)) closing
    | postgres => exact nothing
  | limitTail n =>
    refine isStructural_append ?_ nothing
    cases dialect with
    | sqlServer => exact nothing
    | postgres =>
      have opening := @isStructural_of_all " LIMIT " (by decide)
      exact isStructural_append opening (isStructural_number n.toNat)

end Fragment
end Sql

section
variable {op : Operation} {shape : Shape} {columns : List Column} {table : Table}
  {options : Options}

theorem Plan.mem_givenNames {text : String}
    (shown : .name text ∈ Sql.fragments (assemble op shape columns table options)) :
    text ∈ givenNames columns table options := by
  have ofColumn {c : Column} (here : c ∈ columns) (listed : text ∈ c.name :: c.aliasName.toList) :
      text ∈ givenNames columns table options :=
    List.mem_cons_of_mem _ (List.mem_append_right _ (List.mem_flatMap.mpr ⟨c, here, listed⟩))
  cases Sql.Piece.of_mem _ shown with
  | table => exact List.mem_cons_self
  | tableAlias _ declared =>
    exact List.mem_cons_of_mem _ (List.mem_append_left _ (Option.mem_toList.mpr declared))
  | column placed => exact ofColumn (mem_of_placed placed) List.mem_cons_self
  | columnAlias placed declared =>
    exact ofColumn (mem_of_placed (List.mem_append_right _ placed))
      (List.mem_cons_of_mem _ (Option.mem_toList.mpr declared))

theorem Plan.sound_fragments (usable : fault? columns table options = none) :
    ∀ f ∈ Sql.fragments (assemble op shape columns table options),
      f.Sound (givenNames columns table options) := by
  have words : ∀ text ∈ Sql.fixedWords, text.toList.all Sql.isStructural = true := by decide
  intro f member
  cases Sql.Piece.of_mem f member with
  | word fixed => exact .fixed (.word (Sql.isStructural_of_all (words _ fixed)))
  | table | tableAlias | column | columnAlias => exact .name (mem_givenNames member)
  | slot placed =>
    obtain ⟨_, _, named, _⟩ := Column.fault?_eq_none_iff.mp (fault?_of_placed usable placed)
    exact .slot named
  | hint => exact .fixed .hint
  | limitHead n => exact .fixed (.limitHead n)
  | limitTail n => exact .fixed (.limitTail n)

end
end EntityCrud
