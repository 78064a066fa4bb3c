import EntityCrud.Sql.Dialect
import Mathlib.Data.List.TakeWhile
/-! The words with which operations and dialects are named, in any case of the letters `A` to `Z` and
with white space around them. -/
namespace EntityCrud

namespace Text

section
variable {p : Char → Bool} {front core : List Char}

theorem dropWhile_append_of_bare (blank : ∀ c ∈ front, p c = true)
    (bare : ∀ c ∈ core.head?, p c = false) : (front ++ core).dropWhile p = core := by
  rw [List.dropWhile_append_of_pos blank]
  cases core with
  | nil => rfl
  | cons c rest => exact List.dropWhile_cons_of_neg (Bool.eq_false_iff.mp (bare c rfl))

theorem exists_dropWhile (p : Char → Bool) (s : List Char) :
    ∃ front, s = front ++ s.dropWhile p ∧ (∀ c ∈ front, p c = true) ∧
      ∀ c ∈ (s.dropWhile p).head?, p c = false := by
  refine ⟨s.takeWhile p, List.takeWhile_append_dropWhile.symm, fun c => List.mem_takeWhile_imp, ?_⟩
  intro c first
  have stopped := List.head?_dropWhile_not p s
  rwa [Option.mem_def.mp first] at stopped

end

/-- The 25 characters with the Unicode property White_Space. -/
def IsWhite (c : Char) : Prop :=
  0x09 ≤ c.toNat ∧ c.toNat ≤ 0x0D ∨ 0x2000 ≤ c.toNat ∧ c.toNat ≤ 0x200A ∨
    c.toNat ∈ [0x20, 0x85, 0xA0, 0x1680, 0x2028, 0x2029, 0x202F, 0x205F, 0x3000]

theorem isBlankChar_iff {c : Char} : isBlankChar c = true ↔ IsWhite c := by
  simp only [isBlankChar, inRanges, blankRanges, IsWhite, List.any_cons, List.any_nil,
    Bool.or_false, Bool.or_eq_true, Bool.and_eq_true, decide_eq_true_eq, List.mem_cons,
    List.not_mem_nil, or_false]
  omega

theorem isBlankChar_eq_false_iff {c : Char} : isBlankChar c = false ↔ ¬ IsWhite c := by
  rw [← isBlankChar_iff, Bool.not_eq_true]

/-- What is left of a text without the white space at both of its ends. -/
def Trimmed (s core : List Char) : Prop :=
  ∃ front back, s = front ++ core ++ back ∧ (∀ c ∈ front, IsWhite c) ∧ (∀ c ∈ back, IsWhite c) ∧
    (∀ c ∈ core.head?, ¬ IsWhite c) ∧ ∀ c ∈ core.getLast?, ¬ IsWhite c

theorem trimmed_trim (s : String) : Trimmed s.toList (trim s).toList := by
  obtain ⟨front, whole, white, bare⟩ := exists_dropWhile isBlankChar s.toList
  obtain ⟨back, rest, white', bare'⟩ :=
    exists_dropWhile isBlankChar (s.toList.dropWhile isBlankChar).reverse
  rw [List.reverse_eq_iff, List.reverse_append] at rest
  rw [trim, String.toList_ofList]
  generalize (s.toList.dropWhile isBlankChar).reverse.dropWhile isBlankChar = core at *
  refine ⟨front, back.reverse, ?_, ?_, ?_, ?_, ?_⟩
  · rw [List.append_assoc, ← rest]
    exact whole
  · exact fun c member => isBlankChar_iff.mp (white c member)
  · exact fun c member => isBlankChar_iff.mp (white' c (List.mem_reverse.mp member))
  · intro c first
    rw [rest, List.head?_append, Option.mem_def.mp first] at bare
    exact isBlankChar_eq_false_iff.mp (bare c rfl)
  · intro c last
    rw [List.getLast?_reverse] at last
    exact isBlankChar_eq_false_iff.mp (bare' c last)

theorem Trimmed.eq_trim {s : String} {core : List Char} (trimmed : Trimmed s.toList core) :
    trim s = String.ofList core := by
  obtain ⟨front, back, whole, white, white', bare, bare'⟩ := trimmed
  simp only [← isBlankChar_iff] at white white'
  simp only [← isBlankChar_eq_false_iff] at bare bare'
  have left : (front ++ core ++ back).dropWhile isBlankChar =
      if core = [] then [] else core ++ back := by
    cases core with
    | nil =>
      rw [List.append_nil, if_pos rfl, List.dropWhile_eq_nil_iff]
      exact List.forall_mem_append.mpr ⟨white, white'⟩
    | cons c rest =>
      rw [List.append_assoc, if_neg (List.cons_ne_nil c rest)]
      exact dropWhile_append_of_bare white bare
  rw [trim, whole, left]
  split
  · rename_i empty
    rw [empty]
    rfl
  · have right : (core ++ back).reverse.dropWhile isBlankChar = core.reverse := by
      rw [List.reverse_append]
      apply dropWhile_append_of_bare
      · exact fun c member => white' c (List.mem_reverse.mp member)
      · rwa [List.head?_reverse]
    rw [right, List.reverse_reverse]

/-- The text without the white space around it and with the letters `A` to `Z` in lower case. -/
def Plain (s word : String) : Prop :=
  ∃ core, Trimmed s.toList core ∧ word = String.ofList (core.map Char.toLower)

theorem plain_iff {s word : String} : Plain s word ↔ word = lowerAscii (trim s) := by
  constructor
  · rintro ⟨core, trimmed, rfl⟩
    rw [lowerAscii, trimmed.eq_trim, String.toList_ofList]
  · rintro rfl
    exact ⟨_, trimmed_trim s, rfl⟩

end Text

namespace Operation

/-- The word that names the operation. -/
def word : Operation → String
  | .exists => "exists"
  | .delete => "delete"
  | .insert => "insert"
  | .select => "select"
  | .update => "update"

theorem lowerAscii_name (op : Operation) : Text.lowerAscii op.name = op.word := by
  cases op <;> rfl

theorem ofName?_eq (s : String) :
    ofName? s = all.find? fun op => op.word == Text.lowerAscii (Text.trim s) := by
  simp only [ofName?, Text.sameIgnoringCase, lowerAscii_name]

theorem parse_eq_ok_iff {s sourceType : String} {op : Operation} :
    parse s sourceType = .ok op ↔ Text.Plain s op.word := by
  have found : parse s sourceType = .ok op ↔ ofName? s = some op := by
    unfold parse
    cases ofName? s <;> simp
  rw [found, ofName?_eq, Text.plain_iff]
  generalize Text.lowerAscii (Text.trim s) = spelled
  constructor
  · intro same
    have named := List.find?_some same
    exact eq_of_beq named
  · rintro rfl
    cases op <;> rfl

end Operation

namespace Sql.DialectName

/-- The words that name a dialect. -/
def words : DialectName → List String
  | .sqlServer => ["sql_server", "sqlserver", "mssql"]
  | .postgres => ["postgres", "postgresql", "pg"]

theorem ofTag?_eq_some_iff {word : String} {name : DialectName} :
    ofTag? word = some name ↔ word ∈ words name := by
  constructor
  · intro found
    obtain ⟨_, _, whole, _⟩ := List.lookup_eq_some_iff.mp found
    have listed : (word, name) ∈ spellings := by
      rw [whole]
      exact List.mem_append_right _ List.mem_cons_self
    cases name <;> simpa [spellings, words] using listed
  · intro listed
    cases name <;> simp only [words, List.mem_cons, List.not_mem_nil, or_false] at listed <;>
      rcases listed with rfl | rfl | rfl <;> rfl

end Sql.DialectName
end EntityCrud
