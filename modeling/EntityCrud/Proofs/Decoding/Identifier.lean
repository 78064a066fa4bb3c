import EntityCrud.Sql.Dialect
/-! Reading delimited identifiers back. A part reaches from its opening delimiter to the first
closing delimiter that is not followed by another one; a name is parts joined by dots. What was
written is read exactly, provided that what follows cannot continue it. -/
namespace EntityCrud.Sql.Delimiters

/-- The text before the first closing delimiter that stands alone, and what comes after it. -/
def body? (closing : Char) : List Char → Option (List Char × List Char)
  | [] => none
  | c :: rest =>
    if c = closing then
      match rest with
      | [] => some ([], [])
      | next :: after =>
        if next = closing then (body? closing after).map fun read => (closing :: read.1, read.2)
        else some ([], next :: after)
    else (body? closing rest).map fun read => (c :: read.1, read.2)

section
variable (d : Delimiters)

def part? : List Char → Option (List Char × List Char)
  | [] => none
  | c :: rest => if c = d.opening then body? d.closing rest else none

theorem body?_length {closing : Char} {input part rest : List Char}
    (found : body? closing input = some (part, rest)) : rest.length < input.length := by
  fun_induction body? closing input generalizing part with
  | case1 => contradiction
  | case2 => simp_all
  | case3 after ih =>
    obtain ⟨inner, below, same⟩ := Option.map_eq_some_iff.mp found
    have shorter := @ih inner.1 ((Prod.mk.inj same).2 ▸ below)
    simp only [List.length_cons]
    omega
  | case4 next after different =>
    obtain ⟨_, rfl⟩ := Prod.mk.inj (Option.some.inj found)
    simp
  | case5 c rest different ih =>
    obtain ⟨inner, below, same⟩ := Option.map_eq_some_iff.mp found
    have shorter := @ih inner.1 ((Prod.mk.inj same).2 ▸ below)
    simp only [List.length_cons]
    omega

theorem part?_length {input part rest : List Char} (found : d.part? input = some (part, rest)) :
    rest.length < input.length := by
  cases input with
  | nil => contradiction
  | cons c after =>
    rw [part?] at found
    split at found
    · exact Nat.lt_succ_of_lt (body?_length found)
    · contradiction

/-- The parts of a name, and what comes after it. -/
def parts? (input : List Char) : Option (List (List Char) × List Char) :=
  match _found : d.part? input with
  | none => none
  | some (part, '.' :: rest) => (parts? rest).map fun more => (part :: more.1, more.2)
  | some (part, rest) => some ([part], rest)
termination_by input.length
decreasing_by
  have shorter := part?_length d _found
  simp only [List.length_cons] at shorter
  omega

theorem head?_of_part? {input : List Char} {read : List Char × List Char}
    (found : d.part? input = some read) : input.head? = some d.opening := by
  cases input with
  | nil => contradiction
  | cons c rest =>
    rw [part?] at found
    split at found
    · rename_i opens
      exact congrArg some opens
    · contradiction

theorem head?_of_parts? {input : List Char} {read : List (List Char) × List Char}
    (found : d.parts? input = some read) : input.head? = some d.opening := by
  rw [parts?] at found
  split at found
  · contradiction
  · exact head?_of_part? d ‹_›
  · exact head?_of_part? d ‹_›

theorem parts?_length {input rest : List Char} {parts : List (List Char)}
    (found : d.parts? input = some (parts, rest)) : rest.length < input.length := by
  fun_induction parts? d input generalizing parts with
  | case1 => contradiction
  | case2 input part after first ih =>
    obtain ⟨more, below, same⟩ := Option.map_eq_some_iff.mp found
    have shorter := @ih more.1 ((Prod.mk.inj same).2 ▸ below)
    have outer := part?_length d first
    simp only [List.length_cons] at outer
    omega
  | case3 input part after _ first =>
    obtain ⟨_, rfl⟩ := Prod.mk.inj (Option.some.inj found)
    exact part?_length d first

theorem body?_cons_of_ne {c closing : Char} (other : c ≠ closing) (rest : List Char) :
    body? closing (c :: rest) = (body? closing rest).map fun read => (c :: read.1, read.2) := by
  cases rest <;> simp [body?, other]

theorem body?_doubled (part : List Char) {rest : List Char}
    (ends : rest.head? ≠ some d.closing) :
    body? d.closing (d.doubled part ++ d.closing :: rest) = some (part, rest) := by
  induction part with
  | nil =>
    cases rest with
    | nil => simp [doubled, body?]
    | cons next after =>
      have alone : next ≠ d.closing := fun same => ends (congrArg some same)
      simp [doubled, body?, alone]
  | cons c part ih =>
    have apart : d.doubled (c :: part) =
        (if c = d.closing then [c, c] else [c]) ++ d.doubled part := rfl
    rw [apart]
    by_cases closes : c = d.closing
    · simp [closes, body?, ih]
    · simp [closes, body?_cons_of_ne closes, ih]

theorem part?_quote (part : List Char) {rest : List Char} (ends : rest.head? ≠ some d.closing) :
    d.part? (d.quote part ++ rest) = some (part, rest) := by
  simp [quote, part?, body?_doubled d part ends]

theorem parts?_last {input part rest : List Char} (found : d.part? input = some (part, rest))
    (stops : rest.head? ≠ some '.') : d.parts? input = some ([part], rest) := by
  rw [parts?]
  split
  · simp_all
  · rename_i dotted
    rw [found] at dotted
    cases dotted
    exact absurd rfl stops
  · simp_all

theorem parts?_dot {input part rest : List Char}
    (found : d.part? input = some (part, '.' :: rest)) :
    d.parts? input = (d.parts? rest).map fun more => (part :: more.1, more.2) := by
  rw [parts?]
  split <;> simp_all

/-- The parts of a quoted name are read up to text that continues neither a part nor the name. -/
theorem parts?_quoted {parts : List (List Char)} {rest : List Char} (named : parts ≠ [])
    (ends : rest.head? ≠ some d.closing) (stops : rest.head? ≠ some '.')
    (closing : d.closing ≠ '.') :
    d.parts? (['.'].intercalate (parts.map d.quote) ++ rest) = some (parts, rest) := by
  induction parts with
  | nil => contradiction
  | cons part parts ih =>
    cases parts with
    | nil =>
      rw [List.map_singleton, List.intercalate_singleton]
      exact parts?_last d (part?_quote d part ends) stops
    | cons next parts =>
      have dot : ['.'].intercalate ((part :: next :: parts).map d.quote) ++ rest =
          d.quote part ++ '.' :: (['.'].intercalate ((next :: parts).map d.quote) ++ rest) := by
        simp [List.intercalate_cons_cons]
      have apart : ('.' :: (['.'].intercalate ((next :: parts).map d.quote) ++ rest)).head? ≠
          some d.closing := by simpa using closing.symm
      rw [dot, parts?_dot d (part?_quote d part apart), ih (by simp)]
      rfl

end
end EntityCrud.Sql.Delimiters
