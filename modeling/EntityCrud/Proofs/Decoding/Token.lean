import EntityCrud.Proofs.Decoding.Identifier
import EntityCrud.Sql.Dialect
/-! Tokens of a statement: delimited names, words, and commas and parentheses, with blanks
between them. A text reads as its tokens with the characters after it present, so that neither
a name nor a word is cut short where two texts meet. -/
namespace EntityCrud.Sql

inductive Token where
  | name (text : String)
  | word (text : String)
  | mark (c : Char)
  deriving DecidableEq, Repr

/-- A comma or a parenthesis. -/
def isMark (c : Char) : Bool := c == ',' || c == '(' || c == ')'

/-- A character that a word consists of. -/
def isPlain (c : Char) : Bool := c != ' ' && !isMark c

/-- The tokens of a text; none if a delimited name in it does not end. -/
def lex (d : Delimiters) (input : List Char) : Option (List Token) :=
  match input with
  | [] => some []
  | c :: rest =>
    if c = ' ' then lex d rest
    else if isMark c then (lex d rest).map (.mark c :: ·)
    else if c = d.opening then
      match _found : d.parts? (c :: rest) with
      | none => none
      | some (parts, after) =>
        (lex d after).map (.name (String.ofList (['.'].intercalate parts)) :: ·)
    else
      (lex d (rest.dropWhile isPlain)).map
        (.word (String.ofList (c :: rest.takeWhile isPlain)) :: ·)
termination_by input.length
decreasing_by
  · simp
  · simp
  · exact d.parts?_length _found
  · exact Nat.lt_succ_of_le (List.dropWhile_sublist _).length_le

/-- What ends a word or a name: a blank, a comma, a parenthesis or the end of the text. -/
def Stops (rest : List Char) : Prop := ∀ c, rest.head? = some c → isPlain c = false

/-- The text reads as the tokens wherever a word can end after it. -/
def Reads (d : Delimiters) (text : String) (tokens : List Token) : Prop :=
  ∀ rest, Stops rest → lex d (text.toList ++ rest) = (lex d rest).map (tokens ++ ·)

/-- The text reads as the tokens whatever comes after it. -/
def Passes (d : Delimiters) (text : String) (tokens : List Token) : Prop :=
  ∀ rest, lex d (text.toList ++ rest) = (lex d rest).map (tokens ++ ·)

/-- A word can end before the text if it can end after it. -/
def Opens (text : String) : Prop := ∀ rest, Stops rest → Stops (text.toList ++ rest)

/-- A word ends before the text. -/
def Breaks (text : String) : Prop := ∀ rest, Stops (text.toList ++ rest)

section
variable {d : Delimiters} {first second : String} {before after : List Token}

theorem Passes.reads (passes : Passes d first before) : Reads d first before :=
  fun rest _ => passes rest

theorem Reads.lex_eq (reads : Reads d first before) : lex d first.toList = some before := by
  have whole := reads [] nofun
  rwa [List.append_nil, lex, Option.map_some, List.append_nil] at whole

theorem map_append_map (outcome : Option (List Token)) :
    (outcome.map (after ++ ·)).map (before ++ ·) = outcome.map (before ++ after ++ ·) := by
  simp [Option.map_map, Function.comp_def]

theorem Passes.append (leads : Passes d first before) (follows : Passes d second after) :
    Passes d (first ++ second) (before ++ after) := by
  intro rest
  rw [String.toList_append, List.append_assoc, leads, follows, map_append_map]

theorem Passes.append_reads (leads : Passes d first before) (follows : Reads d second after) :
    Reads d (first ++ second) (before ++ after) := by
  intro rest stops
  rw [String.toList_append, List.append_assoc, leads, follows rest stops, map_append_map]

theorem Reads.append (leads : Reads d first before) (follows : Reads d second after)
    (opens : Opens second) : Reads d (first ++ second) (before ++ after) := by
  intro rest stops
  rw [String.toList_append, List.append_assoc, leads _ (opens rest stops), follows rest stops,
    map_append_map]

theorem Reads.append_passes (leads : Reads d first before) (follows : Passes d second after)
    (breaks : Breaks second) : Passes d (first ++ second) (before ++ after) := by
  intro rest
  rw [String.toList_append, List.append_assoc, leads _ (breaks rest), follows, map_append_map]

theorem breaks_of_head {text : String} (ends : text.toList.head?.map isPlain = some false) :
    Breaks text := by
  intro rest c head
  cases spelled : text.toList with
  | nil => simp [spelled] at ends
  | cons next after =>
    obtain rfl : next = c := by simpa [spelled] using head
    simpa [spelled] using ends

theorem Breaks.opens (breaks : Breaks first) : Opens first := fun rest _ => breaks rest

theorem Breaks.append (breaks : Breaks first) (second : String) : Breaks (first ++ second) := by
  intro rest
  rw [String.toList_append, List.append_assoc]
  exact breaks _

theorem opens_empty : Opens "" := fun _ stops => stops

/-- Texts between separators read as their tokens between the separator's. -/
theorem Reads.intercalate {α : Type} {separator : String} {between : List Token}
    {text : α → String} {tokens : α → List Token} (passes : Passes d separator between)
    (breaks : Breaks separator) (items : List α) (each : ∀ a ∈ items, Reads d (text a) (tokens a)) :
    Reads d (separator.intercalate (items.map text)) (between.intercalate (items.map tokens)) := by
  induction items with
  | nil => intro rest _; simp
  | cons a items ih =>
    have head := each a (by simp)
    have tail := ih fun b member => each b (by simp [member])
    cases items with
    | nil => simpa using head
    | cons b items =>
      simp only [List.map_cons, String.intercalate_cons_cons, List.intercalate_cons_cons] at tail ⊢
      rw [String.append_assoc, List.append_assoc]
      exact head.append (passes.append_reads tail) (breaks.append _).opens

end

section
variable {d : Delimiters}

theorem passes_empty : Passes d "" [] := fun _ => by simp

theorem passes_blank : Passes d " " [] := fun rest => by simp [lex]

theorem passes_mark {text : String} {c : Char} (spelled : text.toList = [c])
    (mark : isMark c = true) : Passes d text [.mark c] := by
  intro rest
  have printed : c ≠ ' ' := by rintro rfl; contradiction
  simp [spelled, lex, mark, printed]

theorem cut_word {w rest : List Char} (plain : ∀ c ∈ w, isPlain c = true) (stops : Stops rest) :
    (w ++ rest).takeWhile isPlain = w ∧ (w ++ rest).dropWhile isPlain = rest := by
  have ends : rest.takeWhile isPlain = [] ∧ rest.dropWhile isPlain = rest := by
    cases rest with
    | nil => exact ⟨rfl, rfl⟩
    | cons c rest => simp [stops c rfl]
  rw [List.takeWhile_append_of_pos plain, List.dropWhile_append_of_pos plain, ends.1, ends.2,
    List.append_nil]
  exact ⟨rfl, rfl⟩

/-- A word that does not open a name is read whole. -/
theorem reads_word {w : String} {c : Char} {inner : List Char} (spelled : w.toList = c :: inner)
    (plain : ∀ x ∈ c :: inner, isPlain x = true) (other : c ≠ d.opening) : Reads d w [.word w] := by
  intro rest stops
  have inside := fun x member => plain x (List.mem_cons_of_mem c member)
  have first : c ≠ ' ' ∧ isMark c = false := by simpa [isPlain] using plain c (by simp)
  have whole : String.ofList (c :: inner) = w := by rw [← spelled, String.ofList_toList]
  rw [spelled, List.cons_append, lex]
  simp [first, other, cut_word inside stops, whole]

/-- Delimiters that belong neither to a blank nor to a mark nor to a dot. -/
structure Delimiters.Distinct (d : Delimiters) : Prop where
  opening : isPlain d.opening = true
  closing : isPlain d.closing = true
  dot : d.closing ≠ '.'

theorem lex_of_parts? (distinct : d.Distinct) {input after : List Char} {parts : List (List Char)}
    (found : d.parts? input = some (parts, after)) :
    lex d input =
      (lex d after).map (.name (String.ofList (['.'].intercalate parts)) :: ·) := by
  have printed : d.opening ≠ ' ' ∧ isMark d.opening = false := by
    simpa [isPlain] using distinct.opening
  have opens := d.head?_of_parts? found
  cases input with
  | nil => simp at opens
  | cons c rest =>
    obtain rfl : c = d.opening := by simpa using opens
    rw [lex]
    simp only [printed, if_false, if_true, Bool.false_eq_true]
    split <;> simp_all

theorem toList_dotted (name : String) :
    (dotted (fun part => String.ofList (d.quote part.toList)) name).toList =
      ['.'].intercalate ((name.toList.splitOn '.').map d.quote) := by
  simp [dotted, Function.comp_def]

/-- A quoted name is read whole. -/
theorem reads_name (distinct : d.Distinct) (name : String) :
    Reads d (dotted (fun part => String.ofList (d.quote part.toList)) name) [.name name] := by
  intro rest stops
  have ends : rest.head? ≠ some d.closing := fun head => by
    simpa [distinct.closing] using stops _ head
  have last : rest.head? ≠ some '.' := fun head => absurd (stops _ head) (by decide)
  have found := d.parts?_quoted (List.splitOn_ne_nil '.' name.toList) ends last distinct.dot
  rw [toList_dotted, lex_of_parts? distinct found, List.intercalate_splitOn, String.ofList_toList]
  rfl

end
end EntityCrud.Sql
