import EntityCrud.Proofs.BareNames
/-! The delimited parts of a statement, found in the text. Between its delimiters a statement shows the
parts of its names and nothing else, in the order of the names. A name is refused when it is blank as a
whole and is cut at its dots afterwards, so that a part can still be empty. -/
namespace EntityCrud
open Sql (Dialect DialectName Delimiters Fragment)

/-- A dot at the beginning or at the end, or two in a row. -/
def StrayDot (name : List Char) : Prop :=
  name.head? = some '.' ∨ name.getLast? = some '.' ∨ ['.', '.'] <:+: name

instance (name : List Char) : Decidable (StrayDot name) :=
  inferInstanceAs (Decidable (_ ∨ _ ∨ _))

namespace Sql
namespace Delimiters
variable (d : Delimiters)

/-- The parts between delimiters in a text, from left to right. -/
def delimited (d : Delimiters) : List Char → List (List Char)
  | [] => []
  | c :: rest =>
    match _found : d.part? (c :: rest) with
    | some (part, after) => part :: delimited d after
    | none => delimited d rest
termination_by text => text.length
decreasing_by
  · exact part?_length d _found
  · exact Nat.lt_succ_self _

theorem delimited_of_part? {text part after : List Char} (found : d.part? text = some (part, after)) :
    d.delimited text = part :: d.delimited after := by
  cases text with
  | nil => contradiction
  | cons c rest =>
    rw [delimited]
    split <;> simp_all

theorem delimited_cons {c : Char} (other : c ≠ d.opening) (rest : List Char) :
    d.delimited (c :: rest) = d.delimited rest := by
  have closed : d.part? (c :: rest) = none := if_neg other
  rw [delimited]
  split <;> simp_all

/-- Text without delimiters shows no part. -/
theorem delimited_append {front : List Char} (free : ∀ c ∈ front, d.delimits c = false)
    (back : List Char) : d.delimited (front ++ back) = d.delimited back := by
  induction front with
  | nil => rfl
  | cons c front ih =>
    obtain ⟨first, others⟩ := List.forall_mem_cons.mp free
    have other : c ≠ d.opening := by
      rintro rfl
      simp [delimits] at first
    rw [List.cons_append, delimited_cons d other, ih others]

theorem head?_append_ne_closing {front back : List Char}
    (free : ∀ c ∈ front, d.delimits c = false)
    (ends : front = [] → back.head? ≠ some d.closing) : (front ++ back).head? ≠ some d.closing := by
  cases front with
  | nil => exact ends rfl
  | cons c front =>
    have first := free c List.mem_cons_self
    intro closes
    obtain rfl : c = d.closing := Option.some.inj closes
    simp [delimits] at first

/-- Parts that are quoted and joined by dots are shown as they are, unless what follows them goes on
with a closing delimiter. -/
theorem delimited_quoted (opening : d.opening ≠ '.') (closing : d.closing ≠ '.')
    (parts : List (List Char)) {rest : List Char} (ends : rest.head? ≠ some d.closing) :
    d.delimited (['.'].intercalate (parts.map d.quote) ++ rest) = parts ++ d.delimited rest := by
  induction parts with
  | nil => rfl
  | cons part parts ih =>
    cases parts with
    | nil =>
      rw [List.map_singleton, List.intercalate_singleton]
      exact delimited_of_part? d (part?_quote d part ends)
    | cons second parts =>
      rw [List.map_cons, List.map_cons, List.intercalate_cons_cons, List.append_assoc,
        List.append_assoc, List.singleton_append,
        delimited_of_part? d (part?_quote d part (by simpa using closing.symm)),
        delimited_cons d opening.symm, ← List.map_cons, ih]
      rfl

end Delimiters

/-- The parts of a name, which dots are between. -/
def nameParts (name : String) : List (List Char) := name.toList.splitOn '.'

namespace Fragment

/-- The names that fragments show. -/
def names : List Fragment → List String
  | [] => []
  | .name text :: rest => text :: names rest
  | _ :: rest => names rest

theorem names_word (text : String) (rest : List Fragment) :
    names (.word text :: rest) = names rest := rfl

@[simp]
theorem names_append (front back : List Fragment) :
    names (front ++ back) = names front ++ names back := by
  induction front with
  | nil => rfl
  | cons f rest ih => cases f <;> simp [names, ih]

theorem names_separated (text : String) (parts : List (List Fragment)) :
    names (separated text parts) = parts.flatMap names :=
  gathered_separated rfl (names_word text) names_append parts

theorem mem_names_iff {text : String} {fragments : List Fragment} :
    text ∈ names fragments ↔ .name text ∈ fragments := by
  induction fragments with
  | nil => simp [names]
  | cons f rest ih => cases f <;> simp [names, ih]

theorem names_projection (c : Column) : names (projection c) = c.name :: c.aliasName.toList := by
  unfold projection
  cases c.aliasName <;> rfl

theorem names_equations (text : String) (columns : List Column) :
    names (separated text (columns.map equation)) = columns.map Column.name := by
  rw [names_separated, List.flatMap_map]
  exact (List.map_eq_flatMap ..).symm

theorem names_columns (text : String) (columns : List Column) :
    names (separated text (columns.map fun c => [.name c.name])) = columns.map Column.name := by
  rw [names_separated, List.flatMap_map]
  exact (List.map_eq_flatMap ..).symm

theorem names_slots (text : String) (columns : List Column) :
    names (separated text (columns.map fun c => [.slot c])) = [] := by
  rw [names_separated, List.flatMap_map, List.flatMap_eq_nil_iff]
  exact fun _ _ => rfl

theorem names_projections (text : String) (columns : List Column) :
    names (separated text (columns.map projection)) =
      columns.flatMap fun c => c.name :: c.aliasName.toList := by
  rw [names_separated, List.flatMap_map]
  simp only [names_projection]

section
variable (plan : Plan)

theorem names_condition : names (condition plan) = plan.predicate.columns.map Column.name :=
  names_equations " AND " plan.predicate.columns

theorem names_source : names (source plan) = plan.table :: plan.aliasName.toList := by
  unfold source
  cases plan.aliasName <;> cases plan.dirtyReads <;> rfl

theorem names_limit {make : UInt32 → Fragment} (nameless : ∀ n, names [make n] = []) :
    names (limit make plan) = [] := by
  unfold limit
  cases plan.readLimit with
  | none => rfl
  | some n => exact nameless n

end
end Fragment
end Sql

/-- The names that a statement of the plan shows, in their order. -/
def Plan.shownNames (plan : Plan) : List String :=
  let keys := plan.predicate.columns.map Column.name
  let data := plan.payload.columns
  match plan.operation with
  | .exists => plan.table :: plan.aliasName.toList ++ keys
  | .delete => plan.table :: keys
  | .insert => plan.table :: data.map Column.name
  | .update => plan.table :: data.map Column.name ++ keys
  | .select =>
    data.flatMap (fun c => c.name :: c.aliasName.toList) ++
      (plan.table :: plan.aliasName.toList ++ keys)

namespace Sql
namespace Fragment

theorem names_fragments (plan : Plan) : names (fragments plan) = plan.shownNames := by
  unfold fragments Plan.shownNames
  cases plan.operation with
  | «exists» => simp [names, names_source, names_condition]
  | delete => simp [names, names_condition]
  | insert => simp [names, names_columns, names_slots]
  | update => simp [names, names_equations, names_condition]
  | select =>
    have top : names (limit .limitHead plan) = [] := names_limit plan fun _ => rfl
    have bottom : names (limit .limitTail plan) = [] := names_limit plan fun _ => rfl
    simp [names, names_projections, names_source, names_condition, top, bottom]

/-- Fragments in which some text stands between any two names. -/
inductive Parted : List Fragment → Prop where
  | nameless {fragments : List Fragment} (none : names fragments = []) : Parted fragments
  | name (text : String) : Parted [.name text]
  | apart {front back : List Fragment} {text : String} (before : Parted front)
      (filled : text ≠ "") (after : Parted back) : Parted (front ++ .word text :: back)
  | ahead {front back : List Fragment} (none : names front = []) (after : Parted back) :
      Parted (front ++ back)
  | behind {front back : List Fragment} (before : Parted front) (none : names back = []) :
      Parted (front ++ back)

namespace Parted

theorem separated {text : String} {part : Column → List Fragment} (filled : text ≠ "")
    (each : ∀ c, Parted (part c)) (columns : List Column) :
    Parted (separated text (columns.map part)) := by
  induction columns with
  | nil => exact .nameless rfl
  | cons first rest ih =>
    cases rest with
    | nil => simpa [Fragment.separated] using each first
    | cons second rest =>
      rw [List.map_cons, List.map_cons, separated_cons_cons]
      exact .apart (each first) filled ih

theorem equation (c : Column) : Parted (equation c) :=
  .behind (.name c.name) (rfl : names [.word " = ", .slot c] = [])

theorem projection (c : Column) : Parted (projection c) := by
  unfold Fragment.projection
  cases c.aliasName with
  | none => exact .name c.name
  | some shown => exact .apart (.name c.name) (by decide : " AS " ≠ "") (.name shown)

section
variable (plan : Plan)

theorem source : Parted (source plan) := by
  have locking : names (if plan.dirtyReads then [.hint] else []) = [] := by
    split <;> rfl
  unfold Sql.source
  cases plan.aliasName with
  | none => exact .behind (.name plan.table) locking
  | some shown =>
    have table : Parted [.name plan.table, .word " AS ", .name shown] :=
      .apart (.name plan.table) (by decide : " AS " ≠ "") (.name shown)
    exact table.behind locking

/-- A condition after fragments keeps them apart. -/
theorem condition {front : List Fragment} (before : Parted front) :
    Parted (front ++ condition plan) :=
  before.apart (by decide : " WHERE " ≠ "") (separated (by decide) equation plan.predicate.columns)

theorem fragments : Parted (Sql.fragments plan) := by
  unfold Sql.fragments
  cases plan.operation with
  | «exists» =>
    have opening : names [.word "SELECT 1 FROM "] = [] := rfl
    exact condition plan (.ahead opening (source plan))
  | delete =>
    have table : Parted [.word "DELETE FROM ", .name plan.table] :=
      .ahead (rfl : names [.word "DELETE FROM "] = []) (.name plan.table)
    exact condition plan table
  | insert =>
    have table : Parted [.word "INSERT INTO ", .name plan.table] :=
      .ahead (rfl : names [.word "INSERT INTO "] = []) (.name plan.table)
    have columns : Parted (Fragment.separated ", "
        (plan.payload.columns.map fun c => [.name c.name])) :=
      separated (by decide) (fun c => .name c.name) plan.payload.columns
    have values : names (.word ") VALUES (" ::
        Fragment.separated ", " (plan.payload.columns.map fun c => [.slot c]) ++ [.word ")"]) = [] := by
      simp [names, names_slots]
    simpa using (table.apart (by decide : " (" ≠ "") columns).behind values
  | update =>
    have table : Parted [.word "UPDATE ", .name plan.table] :=
      .ahead (rfl : names [.word "UPDATE "] = []) (.name plan.table)
    have assignments := separated (by decide : ", " ≠ "") equation plan.payload.columns
    simpa using condition plan (table.apart (by decide : " SET " ≠ "") assignments)
  | select =>
    have opening : names (.word "SELECT " :: Sql.limit .limitHead plan) = [] :=
      names_limit plan fun _ => rfl
    have columns := separated (by decide : ", " ≠ "") projection plan.payload.columns
    have whole := ((columns.ahead opening).apart (by decide : " FROM " ≠ "") (source plan))
    have bottom : names (Sql.limit .limitTail plan) = [] := names_limit plan fun _ => rfl
    simpa using (condition plan whole).behind bottom

end
end Parted

section
variable {dialect : DialectName} {given : List String}

/-- Between its names a statement holds no delimiter. -/
theorem delimits_spell_of_nameless {fragments : List Fragment} (none : names fragments = [])
    (sound : ∀ f ∈ fragments, f.Sound given) (place : Nat) :
    ∀ c ∈ (spell dialect.dialect true place fragments).toList,
      dialect.delimiters.delimits c = false := by
  induction fragments generalizing place with
  | nil => simp [spell]
  | cons f rest ih =>
    obtain ⟨first, others⟩ := List.forall_mem_cons.mp sound
    rw [← List.singleton_append, names_append, List.append_eq_nil_iff] at none
    rw [← List.singleton_append, spell_append, String.toList_append, List.forall_mem_append]
    refine ⟨?_, ih none.2 others _⟩
    cases first with
    | fixed fixed =>
      intro c member
      exact delimits_of_isStructural (fixed.structural dialect true place c member)
    | name listed => simp [names] at none
    | slot named => simpa [spell] using delimits_placeholder named place

/-- The parts that a text shows are those of the names of its fragments. -/
theorem delimited_spell {fragments : List Fragment} (parted : Parted fragments)
    (sound : ∀ f ∈ fragments, f.Sound given) (place : Nat) {rest : List Char}
    (ends : rest.head? ≠ some dialect.delimiters.closing) :
    dialect.delimiters.delimited
        ((spell dialect.dialect true place fragments).toList ++ rest) =
      (names fragments).flatMap nameParts ++ dialect.delimiters.delimited rest := by
  -- A name ends where no closing delimiter follows, so that each fragment is read with the rest in place.
  induction parted generalizing place rest with
  | nameless none =>
    rw [Delimiters.delimited_append _ (delimits_spell_of_nameless none sound place), none]
    rfl
  | name text =>
    have opening : dialect.delimiters.opening ≠ '.' := by cases dialect <;> decide
    have read := dialect.delimiters.delimited_quoted opening dialect.distinct.dot
      (nameParts text) ends
    simpa [spell, names, nameParts, toList_identifier] using read
  | @apart front back text _ filled _ first second =>
    simp only [List.forall_mem_append, List.forall_mem_cons] at sound
    obtain ⟨before, word, after⟩ := sound
    have free : ∀ c ∈ text.toList, dialect.delimiters.delimits c = false := by
      cases word with
      | fixed fixed => cases fixed with
        | word structural => exact fun c member => delimits_of_isStructural (structural c member)
    rw [spell_append, spell, String.toList_append, String.toList_append, List.append_assoc,
      List.append_assoc, first before place, Delimiters.delimited_append _ free, second after _ ends,
      names_append, names_word, List.flatMap_append, List.append_assoc]
    exact Delimiters.head?_append_ne_closing _ free fun empty => absurd (String.toList_eq_nil_iff.mp empty) filled
  | ahead none _ ih =>
    obtain ⟨before, after⟩ := List.forall_mem_append.mp sound
    rw [spell_append, String.toList_append, List.append_assoc,
      Delimiters.delimited_append _ (delimits_spell_of_nameless none before place), ih after _ ends,
      names_append, none, List.nil_append]
  | behind _ none ih =>
    obtain ⟨before, after⟩ := List.forall_mem_append.mp sound
    have free := @delimits_spell_of_nameless dialect given _ none after
    rw [spell_append, String.toList_append, List.append_assoc, ih before place,
      Delimiters.delimited_append _ (free _), names_append, none, List.append_nil]
    exact Delimiters.head?_append_ne_closing _ (free _) fun _ => ends

end
end Fragment
end Sql

section
variable {op : Operation} {shape : Shape} {columns : List Column} {table : Table}
  {options : Options}

theorem givenNames_filled (usable : Plan.fault? columns table options = none) :
    ∀ name ∈ givenNames columns table options, name.toList ≠ [] := by
  have filled {text : String} (shown : Text.isBlank text = false) : text.toList ≠ [] := by
    intro empty
    simp [Text.isBlank, empty] at shown
  obtain ⟨named, _, _, sound, _⟩ := Plan.fault?_eq_none_iff.mp usable
  intro name given
  rcases List.mem_cons.mp given with rfl | given
  · exact filled named
  rcases List.mem_append.mp given with aliased | given
  · have effective := Option.mem_toList.mp aliased
    unfold Plan.effectiveAlias at effective
    exact filled (by simpa using (Option.filter_eq_some_iff.mp effective).2)
  · obtain ⟨c, here, shown⟩ := List.mem_flatMap.mp given
    obtain ⟨plain, _, _, aliased⟩ := Column.fault?_eq_none_iff.mp (sound c here)
    rcases List.mem_cons.mp shown with rfl | shown
    · exact filled plain
    · exact filled (aliased name (Option.mem_toList.mp shown)).1

end

namespace Statement
variable {op : Operation} {shape : Shape} {columns : List Column} {table : Table}
  {options : Options} {s : Statement}

theorem delimited_sql (compiled : compile op shape columns table options = .ok s)
    (quoted : options.encapsulate = true) :
    options.dialect.delimiters.delimited s.sql.toList =
      (Plan.assemble op shape columns table options).shownNames.flatMap Sql.nameParts := by
  obtain ⟨usable, _, _, rfl⟩ := compile_eq_form_iff.mp compiled
  let plan := Plan.assemble op shape columns table options
  have read := @Fragment.delimited_spell options.dialect _ _ (.fragments plan)
    (Plan.sound_fragments usable) 1 [] (by simp)
  have spelled : Fragment.spell options.dialect.dialect true 1 (Sql.fragments plan) =
      Form.text options.dialect.dialect plan (plan.bound.zipIdx 1) := by
    rw [← Fragment.spell_fragments, ← quoted]
    rfl
  rw [List.append_nil, spelled, Fragment.names_fragments, Delimiters.delimited, List.append_nil] at read
  exact read

theorem filled_of_shown (compiled : compile op shape columns table options = .ok s) {name : String}
    (shown : name ∈ (Plan.assemble op shape columns table options).shownNames) :
    name.toList ≠ [] := by
  obtain ⟨usable, _⟩ := compile_eq_form_iff.mp compiled
  rw [← Fragment.names_fragments, Fragment.mem_names_iff] at shown
  exact givenNames_filled usable name (Plan.mem_givenNames shown)

/-- Between its delimiters a statement with quoted names shows the parts of the names of its table and
its columns and of their aliases, all of them in their order and nothing else. None of them is empty
if and only if no name that it shows begins or ends with a dot or has two in a row: that a name is
not blank is asked of the name as a whole, and it is cut at its dots only when it is written. -/
theorem compile_delimited {op : Operation} {shape : Shape} {columns : List Column} {table : Table}
    {options : Options} {s : Statement}
    (compiled : compile op shape columns table options = .ok s)
    (quoted : options.encapsulate = true) :
    let names := (Plan.assemble op shape columns table options).shownNames
    let parts := options.dialect.delimiters.delimited s.sql.toList
    parts = names.flatMap Sql.nameParts ∧
      ((∀ part ∈ parts, part ≠ []) ↔ ∀ name ∈ names, ¬ StrayDot name.toList) := by
  intro names parts
  have shown : parts = names.flatMap Sql.nameParts := delimited_sql compiled quoted
  have empty (name : String) (here : name ∈ names) :
      [] ∈ Sql.nameParts name ↔ StrayDot name.toList :=
    nil_mem_splitOn_iff (filled_of_shown compiled here)
  refine ⟨shown, ?_⟩
  rw [shown]
  constructor
  · intro filled name here stray
    exact filled [] (List.mem_flatMap.mpr ⟨name, here, (empty name here).mpr stray⟩) rfl
  · rintro orderly part listed rfl
    obtain ⟨name, here, inside⟩ := List.mem_flatMap.mp listed
    exact orderly name here ((empty name here).mp inside)

/-- Names with delimiters in them and names of several parts. -/
theorem parts_of_four_kinds_of_names : ∃ s,
    compile .select .single
        [{ name := "Id", primaryKey := true },
          { name := "o.Net]", parameter := "@Net", aliasName := some "Net [EUR]" }]
        { name := "dbo.T", aliasName := some "t" } { encapsulate := true } = .ok s ∧
      s.sql = "SELECT [o].[Net]]] AS [Net [EUR]]] FROM [dbo].[T] AS [t] WHERE [Id] = @Id" ∧
      (DialectName.sqlServer.delimiters.delimited s.sql.toList).map String.ofList =
        ["o", "Net]", "Net [EUR]", "dbo", "T", "t", "Id"] ∧
      ∀ part ∈ DialectName.sqlServer.delimiters.delimited s.sql.toList, part ≠ [] := by
  have compiled : compile .select .single
      [{ name := "Id", primaryKey := true },
        { name := "o.Net]", parameter := "@Net", aliasName := some "Net [EUR]" }]
      { name := "dbo.T", aliasName := some "t" } { encapsulate := true } = .ok _ := rfl
  obtain ⟨parts, filled⟩ := compile_delimited compiled rfl
  refine ⟨_, compiled, by decide, ?_, filled.mpr (by decide +kernel)⟩
  rw [parts]
  decide

/-- A dot is a name of two parts, both of them empty. -/
theorem lone_dot_delimited : ∃ s,
    compile .delete .single [{ name := "Id", primaryKey := true }] { name := "." }
        { encapsulate := true } = .ok s ∧
      s.sql = "DELETE FROM [].[] WHERE [Id] = @Id" ∧
      [] ∈ DialectName.sqlServer.delimiters.delimited s.sql.toList := by
  have compiled : compile .delete .single [{ name := "Id", primaryKey := true }] { name := "." }
    { encapsulate := true } = .ok _ := rfl
  have parts := delimited_sql compiled rfl
  refine ⟨_, compiled, by decide, ?_⟩
  rw [parts]
  decide

end Statement
end EntityCrud
