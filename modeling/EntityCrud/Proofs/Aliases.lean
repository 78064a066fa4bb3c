import EntityCrud.Proofs.Characters
/-! Aliases. A statement shows the aliases of its columns and of its table in turn, each right after an
` AS ` of its own. Between delimiters an alias without a dot is one identifier, and an alias with a dot
is several, as a name is. -/
namespace EntityCrud
open Sql (Dialect DialectName Delimiters Fragment)

/-- The aliases that a statement of the plan shows, in their order. -/
def Plan.aliases (plan : Plan) : List String :=
  match plan.operation with
  | .exists => plan.aliasName.toList
  | .select => plan.payload.columns.flatMap (fun c => c.aliasName.toList) ++ plan.aliasName.toList
  | .delete | .insert | .update => []

namespace Sql
namespace Fragment

/-- The fragments show the aliases one after the other, each right after an ` AS `. -/
structure Shows (fragments : List Fragment) (aliases : List String) : Prop where
  count : fragments.count (.word " AS ") = aliases.length
  each : ∀ before after, fragments = before ++ .word " AS " :: after →
    ∃ shown rest, after = .name shown :: rest ∧ aliases[before.count (.word " AS ")]? = some shown

namespace Shows

theorem none {fragments : List Fragment} (absent : .word " AS " ∉ fragments) :
    Shows fragments [] := by
  refine ⟨List.count_eq_zero.mpr absent, fun before after split => ?_⟩
  rw [split] at absent
  simp at absent

theorem one (shown : String) : Shows [.word " AS ", .name shown] [shown] := by
  refine ⟨by simp, fun before after split => ?_⟩
  cases before with
  | nil => exact ⟨shown, [], (List.cons.inj split).2.symm, rfl⟩
  | cons first before =>
    have inside : .word " AS " ∈ [Fragment.name shown] := by
      rw [(List.cons.inj split).2]
      simp
    simp at inside

theorem append {front back : List Fragment} {early late : List String} (first : Shows front early)
    (second : Shows back late) : Shows (front ++ back) (early ++ late) := by
  constructor
  · rw [List.count_append, first.count, second.count, List.length_append]
  · intro before after split
    rcases List.append_eq_append_iff.mp split with ⟨inner, rfl, same⟩ | ⟨inner, rfl, same⟩
    · obtain ⟨shown, rest, next, listed⟩ := second.each inner after same
      refine ⟨shown, rest, next, ?_⟩
      rw [List.count_append, first.count, List.getElem?_append_right (Nat.le_add_right _ _),
        Nat.add_sub_cancel_left, listed]
    · cases inner with
      | nil =>
        obtain ⟨shown, rest, next, listed⟩ := second.each [] after same.symm
        refine ⟨shown, rest, next, ?_⟩
        have length : before.count (.word " AS ") = early.length := by simpa using first.count
        rw [length, List.getElem?_append_right Nat.le.refl, Nat.sub_self]
        exact listed
      | cons head inner =>
        obtain ⟨rfl, rfl⟩ := List.cons.inj same
        obtain ⟨shown, rest, rfl, listed⟩ := first.each before inner rfl
        refine ⟨shown, rest ++ back, rfl, ?_⟩
        rw [List.getElem?_append_left (List.getElem?_eq_some_iff.mp listed).1, listed]

theorem separated {text : String} {part : Column → List Fragment} {aliases : Column → List String}
    (other : text ≠ " AS ") (each : ∀ c, Shows (part c) (aliases c)) (columns : List Column) :
    Shows (separated text (columns.map part)) (columns.flatMap aliases) := by
  induction columns with
  | nil => exact none (by simp [Fragment.separated])
  | cons first rest ih =>
    cases rest with
    | nil => simpa [Fragment.separated] using each first
    | cons second rest =>
      have between : Shows [.word text] [] := none (by simpa using other.symm)
      rw [List.map_cons, List.map_cons, separated_cons_cons]
      exact (each first).append (between.append ih)

theorem unaliased {text : String} {part : Column → List Fragment} (other : text ≠ " AS ")
    (absent : ∀ c, .word " AS " ∉ part c) (columns : List Column) :
    Shows (Fragment.separated text (columns.map part)) [] :=
  none (word_not_mem_separated other absent columns)

theorem equations {text : String} (other : text ≠ " AS ") (columns : List Column) :
    Shows (Fragment.separated text (columns.map equation)) [] :=
  unaliased other (fun c => by simp [equation]) columns

theorem projection (c : Column) : Shows (projection c) c.aliasName.toList := by
  have name : Shows [.name c.name] [] := none (by simp)
  unfold Fragment.projection
  cases c.aliasName with
  | none => exact name
  | some shown => exact name.append (one shown)

section
variable (plan : Plan)

theorem source : Shows (source plan) plan.aliasName.toList := by
  have table : Shows [.name plan.table] [] := none (by simp)
  have locking : Shows (if plan.dirtyReads then [.hint] else []) [] := by
    split <;> exact none (by simp)
  unfold Sql.source
  cases plan.aliasName with
  | none => exact table.append locking
  | some shown => exact (table.append (one shown)).append locking

theorem condition : Shows (condition plan) [] := by
  have opening : Shows [.word " WHERE "] [] := none (by decide)
  exact opening.append (equations (by decide) plan.predicate.columns)

theorem limit {make : UInt32 → Fragment} (other : ∀ n, make n ≠ .word " AS ") :
    Shows (limit make plan) [] := by
  unfold Sql.limit
  cases plan.readLimit with
  | none => exact none (by simp)
  | some n => exact none (by simpa using (other n).symm)

theorem fragments : Shows (fragments plan) plan.aliases := by
  unfold Sql.fragments Plan.aliases
  cases plan.operation with
  | «exists» =>
    have opening : Shows [.word "SELECT 1 FROM "] [] := none (by decide)
    simpa using (opening.append (source plan)).append (condition plan)
  | delete =>
    have opening : Shows [.word "DELETE FROM ", .name plan.table] [] := none (by simp)
    exact opening.append (condition plan)
  | insert =>
    have opening : Shows [.word "INSERT INTO ", .name plan.table, .word " ("] [] := none (by simp)
    have names : Shows (Fragment.separated ", "
        (plan.payload.columns.map fun c => [.name c.name])) [] :=
      unaliased (by decide) (by simp) _
    have values : Shows [.word ") VALUES ("] [] := none (by decide)
    have marks : Shows (Fragment.separated ", " (plan.payload.columns.map fun c => [.slot c])) [] :=
      unaliased (by decide) (by simp) _
    have closing : Shows [.word ")"] [] := none (by decide)
    have whole := opening.append (names.append (values.append (marks.append closing)))
    simpa using whole
  | update =>
    have opening : Shows [.word "UPDATE ", .name plan.table, .word " SET "] [] := none (by simp)
    have assignments := equations (by decide : ", " ≠ " AS ") plan.payload.columns
    simpa using opening.append (assignments.append (condition plan))
  | select =>
    have opening : Shows [.word "SELECT "] [] := none (by decide)
    have top : Shows (Sql.limit .limitHead plan) [] := limit plan (by simp)
    have columns := separated (by decide : ", " ≠ " AS ") projection plan.payload.columns
    have between : Shows [.word " FROM "] [] := none (by decide)
    have bottom : Shows (Sql.limit .limitTail plan) [] := limit plan (by simp)
    have front := opening.append (top.append (columns.append between))
    have back := (source plan).append ((condition plan).append bottom)
    simpa using front.append back

end
end Shows
end Fragment

section
variable {dialect : DialectName} {name : String}

theorem toList_quoted (part : String) :
    (dialect.dialect.quoted part).toList = dialect.delimiters.quote part.toList := by
  cases dialect <;> exact String.toList_ofList

theorem identifier_of_plain (plain : '.' ∉ name.toList) :
    dialect.dialect.identifier true name = dialect.dialect.quoted name := by
  have single : name.toList.splitOn '.' = [name.toList] := List.splitOn_eq_singleton plain
  change dotted dialect.dialect.quoted name = _
  simp [dotted, single]

theorem part?_quoted (part : String) :
    dialect.delimiters.part? (dialect.dialect.quoted part).toList = some (part.toList, []) := by
  have closed : dialect.delimiters.part? (dialect.delimiters.quote part.toList ++ []) =
      some (part.toList, []) := Delimiters.part?_quote _ _ (by simp)
  rwa [List.append_nil, ← toList_quoted] at closed

/-- The first dot of a name ends an identifier, and something comes after it. -/
theorem part?_identifier (dotted : '.' ∈ name.toList) : ∃ front rest,
    dialect.delimiters.part? (dialect.dialect.identifier true name).toList =
      some (front, '.' :: rest) := by
  obtain ⟨front, back, cut, first⟩ := List.eq_append_cons_of_mem dotted
  obtain ⟨second, more, parts⟩ := List.exists_cons_of_ne_nil (List.splitOn_ne_nil '.' back)
  refine ⟨front, ['.'].intercalate ((second :: more).map dialect.delimiters.quote), ?_⟩
  rw [toList_identifier, cut, List.splitOn_append_cons_self_of_not_mem first, parts, List.map_cons,
    List.map_cons, List.intercalate_cons_cons, List.append_assoc, List.singleton_append]
  exact Delimiters.part?_quote _ front (by simpa using dialect.distinct.dot.symm)

theorem identifier_ne_quoted (dotted : '.' ∈ name.toList) (part : String) :
    dialect.dialect.identifier true name ≠ dialect.dialect.quoted part := by
  intro same
  obtain ⟨front, rest, read⟩ := @part?_identifier dialect name dotted
  rw [same, part?_quoted] at read
  simp at read

end
end Sql

namespace Statement

/-- Every ` AS ` of a statement with quoted names comes before the alias whose turn it is, and there is
one for each of the aliases. The alias is written like a name: where it has no dot, what follows the
` AS ` is its quoting as a whole, and where it has one, that is not one identifier at all. -/
theorem compile_aliases {op : Operation} {shape : Shape} {columns : List Column} {table : Table}
    {options : Options} {s : Statement}
    (compiled : compile op shape columns table options = .ok s)
    (quoted : options.encapsulate = true) :
    let d := options.dialect.dialect
    let plan := Plan.assemble op shape columns table options
    (Sql.fragments plan).count (.word " AS ") = plan.aliases.length ∧
      ∀ before after, Sql.fragments plan = before ++ .word " AS " :: after →
        ∃ shown rest, plan.aliases[before.count (.word " AS ")]? = some shown ∧
          after = .name shown :: rest ∧
          s.sql = Fragment.spell d true 1 before ++ " AS " ++ d.identifier true shown ++
            Fragment.spell d true (1 + (Fragment.slots before).length) rest ∧
          ('.' ∉ shown.toList → d.identifier true shown = d.quoted shown) ∧
          ('.' ∈ shown.toList → ∀ part, d.identifier true shown ≠ d.quoted part) := by
  intro d plan
  have shows : Fragment.Shows (Sql.fragments plan) plan.aliases := .fragments plan
  refine ⟨shows.count, fun before after split => ?_⟩
  obtain ⟨shown, rest, rfl, turn⟩ := shows.each before after split
  refine ⟨shown, rest, turn, rfl, ?_, Sql.identifier_of_plain, Sql.identifier_ne_quoted⟩
  obtain ⟨_, _, _, rfl⟩ := compile_eq_form_iff.mp compiled
  calc Form.text d plan (plan.bound.zipIdx 1)
    _ = Fragment.spell d options.encapsulate 1 (Sql.fragments plan) :=
      (Fragment.spell_fragments d plan).symm
    _ = _ := by
      rw [quoted, split, Fragment.spell_append, Fragment.spell, Fragment.spell,
        String.append_assoc, String.append_assoc]

/-- An alias with a delimiter and a blank in it, and one with a dot. -/
def aliasedColumns : List Column :=
  [{ name := "Id", primaryKey := true }, { name := "Net", aliasName := some "Net] price" },
    { name := "Tax", aliasName := some "o.tax" }]

theorem aliases_in_turn : ∃ s,
    compile .select .single aliasedColumns { name := "T" } { encapsulate := true } = .ok s ∧
      s.sql = "SELECT [Net] AS [Net]] price], [Tax] AS [o].[tax] FROM [T] WHERE [Id] = @Id" ∧
      (∃ rest, s.sql = "SELECT [Net]" ++ " AS " ++ Sql.Dialect.sqlServer.quoted "Net] price" ++ rest) ∧
      ∃ rest, s.sql = "SELECT [Net] AS [Net]] price], [Tax]" ++ " AS " ++
        Sql.Dialect.sqlServer.identifier true "o.tax" ++ rest := by
  have compiled : compile .select .single aliasedColumns { name := "T" } { encapsulate := true } =
    .ok _ := rfl
  obtain ⟨_, each⟩ := compile_aliases compiled rfl
  obtain ⟨first, _, turn, _, text, whole, _⟩ := each [.word "SELECT ", .name "Net"] _ rfl
  obtain ⟨second, _, turn', _, text', _, _⟩ := each
    [.word "SELECT ", .name "Net", .word " AS ", .name "Net] price", .word ", ", .name "Tax"] _ rfl
  obtain rfl : "Net] price" = first := Option.some.inj turn
  obtain rfl : "o.tax" = second := Option.some.inj turn'
  rw [whole (by decide)] at text
  exact ⟨_, compiled, by decide, ⟨_, text⟩, _, text'⟩

/-- The alias of the table is cut at its dot. -/
theorem dotted_alias_cut : ∃ s,
    compile .exists .single [{ name := "Id", primaryKey := true }]
        { name := "T", aliasName := some "a.b" } { encapsulate := true } = .ok s ∧
      s.sql = "SELECT 1 FROM [T]" ++ " AS " ++ "[a].[b]" ++ " WITH (NOLOCK) WHERE [Id] = @Id" ∧
      ∀ part, "[a].[b]" ≠ Sql.Dialect.sqlServer.quoted part := by
  have written : Sql.Dialect.sqlServer.identifier true "a.b" = "[a].[b]" := by decide
  refine ⟨_, rfl, by decide, fun part => ?_⟩
  rw [← written]
  exact @Sql.identifier_ne_quoted .sqlServer "a.b" (by decide) part

end Statement
end EntityCrud
