import EntityCrud.Proofs.Decoding.Legible
import EntityCrud.Proofs.StatementForm
/-! The pieces of a statement as tokens, in both dialects: the fixed words, quoted names, and
references to parameters. -/
namespace EntityCrud.Sql

def DialectName.delimiters : DialectName → Delimiters
  | .sqlServer => ⟨'[', ']'⟩
  | .postgres => ⟨'"', '"'⟩

theorem DialectName.distinct (dialect : DialectName) : dialect.delimiters.Distinct := by
  cases dialect <;> constructor <;> decide

/-- Characters of a word that opens no name in either dialect. -/
def isKeyword (w : String) : Bool :=
  match w.toList with
  | [] => false
  | c :: rest => (c :: rest).all isPlain && c != '[' && c != '"'

section
variable {dialect : DialectName}

theorem reads_keyword {w : String} (keyword : isKeyword w = true) :
    Reads dialect.delimiters w [.word w] := by
  unfold isKeyword at keyword
  split at keyword
  · contradiction
  · rename_i c rest spelled
    simp only [Bool.and_eq_true, List.all_eq_true, bne_iff_ne] at keyword
    obtain ⟨⟨plain, bracket⟩, quote⟩ := keyword
    have other : c ≠ dialect.delimiters.opening := by cases dialect <;> assumption
    exact reads_word spelled plain other

/-- Keywords, each with a blank after it. -/
theorem passes_keywords (words : List String) {text : String}
    (keywords : words.all isKeyword = true)
    (spelled : text.toList = words.flatMap fun w => w.toList ++ [' ']) :
    Passes dialect.delimiters text (words.map .word) := by
  induction words generalizing text with
  | nil =>
    obtain rfl : text = "" := String.toList_inj.mp spelled
    exact passes_empty
  | cons w words ih =>
    simp only [List.all_cons, Bool.and_eq_true] at keywords
    have whole : text = w ++ " " ++
        String.ofList (words.flatMap fun w => w.toList ++ [' ']) := by
      apply String.toList_inj.mp
      simp [spelled]
    have head : Passes dialect.delimiters (w ++ " ") [.word w] :=
      (reads_keyword keywords.1).append_passes passes_blank (breaks_of_head rfl)
    rw [whole]
    exact head.append (ih keywords.2 String.toList_ofList)

/-- Keywords, with a blank before the first of them too. -/
theorem passes_spaced (words : List String) {text : String}
    (keywords : words.all isKeyword = true)
    (spelled : text.toList = ' ' :: words.flatMap fun w => w.toList ++ [' ']) :
    Passes dialect.delimiters text (words.map .word) := by
  have whole : text = " " ++ String.ofList (words.flatMap fun w => w.toList ++ [' ']) := by
    apply String.toList_inj.mp
    simp [spelled]
  rw [whole]
  exact passes_blank.append (passes_keywords words keywords String.toList_ofList)

theorem passes_comma : Passes dialect.delimiters ", " [.mark ','] := by
  have comma : Passes dialect.delimiters "," [.mark ','] := passes_mark rfl rfl
  exact comma.append passes_blank

theorem reads_identifier (name : String) :
    Reads dialect.delimiters (dialect.dialect.identifier true name) [.name name] := by
  have quoted : dialect.dialect.quoted =
      fun part => String.ofList (dialect.delimiters.quote part.toList) := by
    cases dialect <;> rfl
  have read := reads_name dialect.distinct name
  rwa [← quoted] at read

theorem isPlain_of_isWordRest {c : Char} (inside : Text.isWordRest c = true) :
    isPlain c = true := by
  have blank : c ≠ ' ' := by rintro rfl; contradiction
  have comma : c ≠ ',' := by rintro rfl; contradiction
  have opening : c ≠ '(' := by rintro rfl; contradiction
  have closing : c ≠ ')' := by rintro rfl; contradiction
  simp [isPlain, isMark, blank, comma, opening, closing]

theorem isWordRest_of_isWordStart {c : Char} (first : Text.isWordStart c = true) :
    Text.isWordRest c = true := by
  unfold Text.isWordStart at first
  unfold Text.isWordRest Char.isAlphanum
  simp only [Bool.or_eq_true] at first ⊢
  rcases first with letter | underscore
  · exact .inl (.inl letter)
  · exact .inr underscore

theorem isKeyword_parameter {parameter : String} (named : isParameterName parameter = true) :
    isKeyword parameter = true ∧ Reading.Referring parameter := by
  unfold isParameterName at named
  split at named
  · rename_i first rest spelled
    simp only [Bool.and_eq_true, List.all_eq_true] at named
    have plain := isPlain_of_isWordRest (isWordRest_of_isWordStart named.1)
    have after : ∀ c ∈ rest, isPlain c = true := fun c here =>
      isPlain_of_isWordRest (named.2 c here)
    refine ⟨?_, .inl (by rw [spelled]; rfl)⟩
    simp only [isKeyword, spelled, List.all_cons, plain, List.all_eq_true.mpr after]
    decide
  · contradiction

theorem isPlain_digits (n : Nat) : ∀ c ∈ Nat.toDigits 10 n, isPlain c = true := by
  intro c here
  have digit := Nat.isDigit_of_mem_toDigits (by decide) (by decide) here
  exact isPlain_of_isWordRest (by simp [Text.isWordRest, Char.isAlphanum, digit])

theorem isKeyword_number (n : Nat) : isKeyword n.repr = true := by
  obtain ⟨c, rest, digits⟩ := List.exists_cons_of_ne_nil (Nat.toDigits_ne_nil (n := n) (b := 10))
  have plain := isPlain_digits n
  have first : c.isDigit = true :=
    Nat.isDigit_of_mem_toDigits (b := 10) (n := n) (by decide) (by decide) (by rw [digits]; simp)
  have bracket : c ≠ '[' := by rintro rfl; contradiction
  have quote : c ≠ '"' := by rintro rfl; contradiction
  rw [digits] at plain
  simp only [isKeyword, Nat.toList_repr, digits, List.all_eq_true.mpr plain, Bool.true_and]
  simp [bracket, quote]

/-- What both dialects write for a parameter is one word, and a reference. -/
theorem isKeyword_mark {c : Column} (named : isParameterName c.parameter = true) (place : Nat) :
    isKeyword (Form.mark dialect.dialect (c, place)) = true ∧
      Reading.Referring (Form.mark dialect.dialect (c, place)) := by
  cases dialect with
  | sqlServer => exact isKeyword_parameter named
  | postgres =>
    have spelled : (Form.mark Dialect.postgres (c, place)).toList =
        '$' :: Nat.toDigits 10 place := by
      rw [← Nat.toList_repr]
      exact String.toList_append
    refine ⟨?_, .inr (congrArg List.head? spelled)⟩
    change isKeyword (Form.mark Dialect.postgres (c, place)) = true
    simp only [isKeyword, spelled, List.all_cons, List.all_eq_true.mpr (isPlain_digits place)]
    decide

end
end EntityCrud.Sql
