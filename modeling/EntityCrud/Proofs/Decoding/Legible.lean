import EntityCrud.Proofs.Decoding.Reading
import EntityCrud.Proofs.Joined
/-! Legible readings. Where every list has an item and no reference is a keyword, a reading is
read back from its tokens, so nothing in them is ambiguous. -/
namespace EntityCrud.Sql.Reading
open Token

/-- A reference as both dialects write it, which is no keyword. -/
def Referring (reference : String) : Prop :=
  reference.toList.head? = some '@' ∨ reference.toList.head? = some '$'

/-- Every list has an item, and what stands for a parameter is a reference. -/
def Legible : Reading → Prop
  | .exists _ condition | .delete _ condition =>
    condition ≠ [] ∧ ∀ pair ∈ condition, Referring pair.2
  | .insert _ names references => names ≠ [] ∧ references ≠ []
  | .update _ assignments condition =>
    assignments ≠ [] ∧ (∀ pair ∈ assignments, Referring pair.2) ∧
      condition ≠ [] ∧ ∀ pair ∈ condition, Referring pair.2
  | .select _ projection _ condition =>
    projection ≠ [] ∧ condition ≠ [] ∧ ∀ pair ∈ condition, Referring pair.2

instance (reference : String) : Decidable (Referring reference) :=
  inferInstanceAs (Decidable (_ ∨ _))

theorem Referring.ne {reference keyword : String} (refers : Referring reference)
    (other : ¬ Referring keyword) : reference ≠ keyword :=
  fun same => other (same ▸ refers)

theorem Source.ofTokens_tokens (source : Source) : ofTokens source.tokens = some source := by
  obtain ⟨table, aliasName, hint⟩ := source
  cases aliasName <;> cases hint <;> rfl

theorem where_not_mem_source (source : Source) : .word "WHERE" ∉ source.tokens := by
  obtain ⟨table, aliasName, hint⟩ := source
  cases aliasName <;> cases hint <;> simp [Source.tokens, shownTokens, hintTokens]

theorem listed_pairs {list : List (String × String)} (nonempty : list ≠ []) {separator : Token}
    (apart : ∀ pair ∈ list, separator ∉ pairTokens pair) :
    listed separator pair? (pairs separator list) = some list :=
  listed_intercalate nonempty fun pair here => ⟨rfl, apart pair here⟩

section
variable {list : List (String × String)} (refer : ∀ pair ∈ list, Referring pair.2)
include refer

/-- A keyword that separates no pairs stands nowhere among them. -/
theorem keyword_not_mem_pairs {separator : Token} {keyword : String}
    (other : ¬ Referring keyword) (equals : keyword ≠ "=")
    (apart : separator ≠ .word keyword) : .word keyword ∉ pairs separator list := by
  intro member
  rcases of_mem_intercalate member with same | ⟨_, listed, inside⟩
  · exact apart (List.mem_singleton.mp same).symm
  · obtain ⟨pair, here, rfl⟩ := List.mem_map.mp listed
    have named := (refer pair here).ne other
    simp [pairTokens, equals, named.symm] at inside

theorem listed_condition (nonempty : list ≠ []) :
    listed (.word "AND") pair? (pairs (.word "AND") list) = some list := by
  refine listed_pairs nonempty fun pair here => ?_
  have named : pair.2 ≠ "AND" := (refer pair here).ne (by decide)
  simp [pairTokens, named.symm]

end

theorem listed_assignments {list : List (String × String)} (nonempty : list ≠ []) :
    listed (.mark ',') pair? (pairs (.mark ',') list) = some list :=
  listed_pairs nonempty fun pair _ => by simp [pairTokens]

theorem mark_not_mem_shownTokens (c : Char) (column : String × Option String) :
    .mark c ∉ shownTokens column := by
  obtain ⟨name, shown⟩ := column
  cases shown <;> simp [shownTokens]

theorem shown?_shownTokens (column : String × Option String) :
    shown? (shownTokens column) = some column := by
  obtain ⟨name, shown⟩ := column
  cases shown <;> rfl

theorem from_not_mem_projection (projection : List (String × Option String)) :
    .word "FROM" ∉ [.mark ','].intercalate (projection.map shownTokens) := by
  intro member
  rcases of_mem_intercalate member with same | ⟨_, listed, inside⟩
  · simp at same
  · obtain ⟨⟨name, shown⟩, _, rfl⟩ := List.mem_map.mp listed
    cases shown <;> simp [shownTokens] at inside

theorem number_repr (n : UInt32) : number n.toNat.repr = n := by
  rw [number, Nat.toList_repr, Nat.ofDigitChars_ten_toDigits, UInt32.ofNat_toNat]

theorem limit_not_mem_condition {condition : List (String × String)}
    (refer : ∀ pair ∈ condition, Referring pair.2) :
    .word "LIMIT" ∉ pairs (.word "AND") condition :=
  keyword_not_mem_pairs refer (by decide) (by decide) (by decide)

theorem selectOfTokens_tokens (top limit : Option UInt32) (closing : List Token)
    (projection : List (String × Option String)) (source : Source)
    (condition : List (String × String)) (columns : projection ≠ []) (keys : condition ≠ [])
    (refer : ∀ pair ∈ condition, Referring pair.2)
    (ends : (closing = [] ∧ limit = top) ∨
      ∃ n, limit = some n ∧ closing = [.word "LIMIT", .word (toString n.toNat)]) :
    selectOfTokens top ([.mark ','].intercalate (projection.map shownTokens) ++ .word "FROM" ::
        (source.tokens ++ .word "WHERE" :: (pairs (.word "AND") condition ++ closing))) =
      some (.select limit projection source condition) := by
  have shown : listed (.mark ',') shown? ([.mark ','].intercalate (projection.map shownTokens)) =
      some projection :=
    listed_intercalate columns fun column _ =>
      ⟨shown?_shownTokens column, mark_not_mem_shownTokens ',' column⟩
  have located := listed_condition refer keys
  unfold selectOfTokens
  rcases ends with ⟨rfl, rfl⟩ | ⟨n, rfl, rfl⟩
  · simp [cut?_append (from_not_mem_projection projection),
      cut?_append (where_not_mem_source source), cut?_eq_none (limit_not_mem_condition refer),
      shown, located, Source.ofTokens_tokens]
  · simp [cut?_append (from_not_mem_projection projection),
      cut?_append (where_not_mem_source source), cut?_append (limit_not_mem_condition refer),
      shown, located, Source.ofTokens_tokens, number_repr]

theorem mark_not_mem_joined {c : Char} (other : c ≠ ',') (make : String → Token)
    (apart : ∀ text, make text ≠ .mark c) (list : List String) :
    .mark c ∉ [.mark ','].intercalate (list.map fun text => [make text]) := by
  intro member
  rcases of_mem_intercalate member with same | ⟨_, listed, inside⟩
  · simp [other] at same
  · obtain ⟨text, _, rfl⟩ := List.mem_map.mp listed
    exact apart text (List.mem_singleton.mp inside).symm

theorem ofTokens_insert (dialect : DialectName) (table : String) {names references : List String}
    (columns : names ≠ []) (marks : references ≠ []) :
    ofTokens (tokens dialect (.insert table names references)) =
      some (.insert table names references) := by
  have listed_names : listed (.mark ',') name?
      ([.mark ','].intercalate (names.map fun name => [.name name])) = some names :=
    listed_intercalate columns fun name _ => ⟨rfl, by simp⟩
  have listed_references : listed (.mark ',') word?
      ([.mark ','].intercalate (references.map fun reference => [.word reference])) =
        some references :=
    listed_intercalate marks fun reference _ => ⟨rfl, by simp⟩
  have closes : ')' ≠ ',' := by decide
  have front := mark_not_mem_joined closes .name nofun names
  have back := mark_not_mem_joined closes .word nofun references
  have opens : Token.mark '(' ∉ [.word "VALUES"] := by simp
  have values : cut? (.mark '(') (.word "VALUES" :: .mark '(' ::
      ([.mark ','].intercalate (references.map fun reference => [Token.word reference]) ++
        [.mark ')'])) = some ([.word "VALUES"], _) :=
    cut?_append opens _
  simp only [tokens, ofTokens, List.append_assoc, List.cons_append, List.nil_append]
  simp [cut?_append front, values, cut?_append back, listed_names, listed_references]

/-- A select without a limit in front shows a column right after its keyword. -/
theorem ofTokens_select {projection : List (String × Option String)} (columns : projection ≠ [])
    (rest : List Token) :
    ofTokens (.word "SELECT" ::
        ([.mark ','].intercalate (projection.map shownTokens) ++ rest)) =
      selectOfTokens none ([.mark ','].intercalate (projection.map shownTokens) ++ rest) := by
  obtain ⟨⟨column, shown⟩, more, rfl⟩ := List.exists_cons_of_ne_nil columns
  have named : ∃ after, [.mark ','].intercalate (((column, shown) :: more).map shownTokens) =
      .name column :: after := by
    cases more <;> cases shown <;> simp [shownTokens, List.intercalate_cons_cons]
  obtain ⟨after, named⟩ := named
  rw [named]
  rfl

/-- A reading is read back from its tokens. -/
theorem ofTokens_tokens (dialect : DialectName) {reading : Reading} (legible : reading.Legible) :
    ofTokens (reading.tokens dialect) = some reading := by
  cases reading with
  | «exists» source condition =>
    obtain ⟨keys, refer⟩ := legible
    simp [tokens, ofTokens, cut?_append (where_not_mem_source source), listed_condition refer keys,
      Source.ofTokens_tokens]
  | delete table condition =>
    obtain ⟨keys, refer⟩ := legible
    simp [tokens, ofTokens, listed_condition refer keys]
  | insert table names references =>
    obtain ⟨columns, marks⟩ := legible
    exact ofTokens_insert dialect table columns marks
  | update table assignments condition =>
    obtain ⟨columns, assigned, keys, refer⟩ := legible
    have edge : .word "WHERE" ∉ pairs (.mark ',') assignments :=
      keyword_not_mem_pairs assigned (by decide) (by decide) (by decide)
    simp [tokens, ofTokens, cut?_append edge, listed_condition refer keys,
      listed_assignments columns]
  | select limit projection source condition =>
    obtain ⟨columns, keys, refer⟩ := legible
    cases limit with
    | none =>
      have top : topTokens dialect none = [] := by cases dialect <;> rfl
      have closing : limitTokens dialect none = [] := by cases dialect <;> rfl
      rw [tokens, top, closing, List.nil_append, ofTokens_select columns]
      exact selectOfTokens_tokens none none [] projection source condition columns keys refer
        (.inl ⟨rfl, rfl⟩)
    | some n =>
      cases dialect with
      | sqlServer =>
        exact selectOfTokens_tokens (some (number (toString n.toNat))) (some n) [] projection source
          condition columns keys refer (.inl ⟨rfl, congrArg some (number_repr n).symm⟩)
      | postgres =>
        have top : topTokens .postgres (some n) = [] := rfl
        rw [tokens, top, List.nil_append, ofTokens_select columns]
        exact selectOfTokens_tokens none (some n) _ projection source condition columns keys refer
          (.inr ⟨n, rfl, rfl⟩)

end EntityCrud.Sql.Reading
