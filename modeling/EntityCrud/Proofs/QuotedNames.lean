import EntityCrud.Proofs.DelimitedParts
/-! Quoted names, read back. The reader of delimited parts takes in what is written for a name and
nothing else, whatever characters the name has, so that a name can be told from its quoted form. -/
namespace EntityCrud.Sql

namespace Delimiters
variable {d : Delimiters} {input rest : List Char}

theorem doubled_cons_self (part : List Char) :
    d.doubled (d.closing :: part) = d.closing :: d.closing :: d.doubled part := by
  simp [doubled]

theorem doubled_cons_of_ne {c : Char} (other : c ≠ d.closing) (part : List Char) :
    d.doubled (c :: part) = c :: d.doubled part := by
  simp [doubled, other]

/-- The text that is read before a closing delimiter is the text that is written there. -/
theorem of_body? {part : List Char} (found : body? d.closing input = some (part, rest)) :
    input = d.doubled part ++ d.closing :: rest ∧ rest.head? ≠ some d.closing := by
  fun_induction body? d.closing input generalizing part with
  | case1 => contradiction
  | case2 =>
    obtain ⟨rfl, rfl⟩ := Prod.mk.inj (Option.some.inj found)
    simp [doubled]
  | case3 after ih =>
    obtain ⟨⟨inner, _⟩, below, same⟩ := Option.map_eq_some_iff.mp found
    obtain ⟨rfl, rfl⟩ := Prod.mk.inj same
    obtain ⟨written, ends⟩ := ih below
    rw [doubled_cons_self, written]
    exact ⟨rfl, ends⟩
  | case4 next after alone =>
    obtain ⟨rfl, rfl⟩ := Prod.mk.inj (Option.some.inj found)
    simpa [doubled] using alone
  | case5 c after other ih =>
    obtain ⟨⟨inner, _⟩, below, same⟩ := Option.map_eq_some_iff.mp found
    obtain ⟨rfl, rfl⟩ := Prod.mk.inj same
    obtain ⟨written, ends⟩ := ih below
    rw [doubled_cons_of_ne other, written]
    exact ⟨rfl, ends⟩

theorem part?_eq_some_iff {part : List Char} :
    d.part? input = some (part, rest) ↔
      input = d.quote part ++ rest ∧ rest.head? ≠ some d.closing := by
  constructor
  · intro found
    cases input with
    | nil => contradiction
    | cons c after =>
      rw [part?] at found
      split at found
      · rename_i opens
        obtain ⟨written, ends⟩ := of_body? found
        rw [opens, written]
        exact ⟨by simp [quote], ends⟩
      · contradiction
  · rintro ⟨rfl, ends⟩
    exact d.part?_quote part ends

/-- Parts are read exactly where they are written one by one, with dots between them, and what comes
after them goes on neither with the last part nor with another one. -/
theorem parts?_eq_some_iff (closing : d.closing ≠ '.') {parts : List (List Char)} :
    d.parts? input = some (parts, rest) ↔
      parts ≠ [] ∧ input = ['.'].intercalate (parts.map d.quote) ++ rest ∧
        rest.head? ≠ some d.closing ∧ rest.head? ≠ some '.' := by
  constructor
  · intro found
    fun_induction parts? d input generalizing parts with
    | case1 => contradiction
    | case2 input part after first ih =>
      obtain ⟨⟨more, _⟩, below, same⟩ := Option.map_eq_some_iff.mp found
      obtain ⟨rfl, rfl⟩ := Prod.mk.inj same
      obtain ⟨named, written, ends, stops⟩ := ih below
      obtain ⟨next, others, rfl⟩ := List.exists_cons_of_ne_nil named
      refine ⟨List.cons_ne_nil _ _, ?_, ends, stops⟩
      rw [(part?_eq_some_iff.mp first).1, written]
      simp [List.intercalate_cons_cons]
    | case3 input part after undotted first =>
      obtain ⟨rfl, rfl⟩ := Prod.mk.inj (Option.some.inj found)
      obtain ⟨written, ends⟩ := part?_eq_some_iff.mp first
      refine ⟨List.cons_ne_nil _ _, by simpa using written, ends, ?_⟩
      intro dotted
      obtain ⟨tail, rfl⟩ := List.head?_eq_some_iff.mp dotted
      exact undotted _ rfl
  · rintro ⟨named, rfl, ends, stops⟩
    exact d.parts?_quoted named ends stops closing

end Delimiters

/-- In both dialects the parts of a name, and the text after them, are read from a text exactly if it
is the quoted name and then that text, which goes on neither with a closing delimiter nor with a dot.
The parts are what the name has between its dots, empty ones included. -/
theorem parts?_eq_nameParts_iff (dialect : DialectName) (name : String) :
    (∀ input rest, dialect.delimiters.parts? input = some (nameParts name, rest) ↔
      input = (dialect.dialect.identifier true name).toList ++ rest ∧
        rest.head? ≠ some dialect.delimiters.closing ∧ rest.head? ≠ some '.') ∧
      ['.'].intercalate (nameParts name) = name.toList ∧ ∀ part ∈ nameParts name, '.' ∉ part := by
  refine ⟨?_, List.intercalate_splitOn '.', fun part listed => not_mem_of_mem_splitOn listed⟩
  intro input rest
  have named : nameParts name ≠ [] := List.splitOn_ne_nil '.' name.toList
  rw [Delimiters.parts?_eq_some_iff dialect.distinct.dot, toList_identifier]
  exact and_iff_right named

/-- A quote at the end of a part, and an empty part after it. -/
example : DialectName.postgres.delimiters.parts? "\"a\"\"\".\"\" AS".toList =
    some (["a\"".toList, []], " AS".toList) := by
  cbv

end EntityCrud.Sql
