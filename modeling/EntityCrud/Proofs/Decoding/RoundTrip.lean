import EntityCrud.Proofs.Compilation
import EntityCrud.Proofs.Decoding.Clauses
/-! Statements with quoted names say one thing only. Each is decoded to its operation and to the
names, references and limits in their places, whatever characters the names contain. -/
namespace EntityCrud.Sql
open Reading

/-- The reading of a statement with quoted names. -/
def decode (dialect : DialectName) (sql : String) : Option Reading :=
  (lex dialect.delimiters sql.toList).bind ofTokens

namespace Reading

/-- What the statement of a plan says. -/
def ofPlan (d : Dialect) (plan : Plan) : Reading :=
  let payload := plan.payload.columns
  let predicate := plan.predicate.columns
  match plan.operation with
  | .exists => .exists (.ofPlan d plan) (ofBound d 1 predicate)
  | .delete => .delete plan.table (ofBound d 1 predicate)
  | .insert =>
    .insert plan.table (payload.map Column.name) ((payload.zipIdx 1).map (Form.mark d))
  | .update =>
    .update plan.table (ofBound d 1 payload) (ofBound d (1 + payload.length) predicate)
  | .select =>
    .select plan.readLimit (payload.map ofColumn) (.ofPlan d plan) (ofBound d 1 predicate)

/-- The tokens before the condition. -/
def leadTokens (dialect : DialectName) (plan : Plan) : List Token :=
  let source := (Source.ofPlan dialect.dialect plan).tokens
  match plan.operation with
  | .exists => .word "SELECT" :: .word "1" :: .word "FROM" :: source
  | .delete => [.word "DELETE", .word "FROM", .name plan.table]
  | .update =>
    .word "UPDATE" :: .name plan.table :: .word "SET" ::
      pairs (.mark ',') (ofBound dialect.dialect 1 plan.payload.columns)
  | .select =>
    .word "SELECT" :: topTokens dialect plan.readLimit ++
      [.mark ','].intercalate ((plan.payload.columns.map ofColumn).map shownTokens) ++
      .word "FROM" :: source
  | .insert => []

section
variable (dialect : DialectName) {plan : Plan} (quoted : plan.encapsulate = true)
include quoted

theorem reads_insertion {bound : List (Column × Nat)}
    (named : ∀ b ∈ bound, isParameterName b.1.parameter = true) :
    Reads dialect.delimiters (Form.insertion dialect.dialect plan bound)
      (tokens dialect (.insert plan.table (bound.map fun b => b.1.name)
        (bound.map (Form.mark dialect.dialect)))) := by
  have into : Passes dialect.delimiters "INSERT INTO " [.word "INSERT", .word "INTO"] :=
    passes_keywords ["INSERT", "INTO"] rfl rfl
  have opening : Passes dialect.delimiters "(" [.mark '('] := passes_mark rfl rfl
  have names : Reads dialect.delimiters
      (", ".intercalate (bound.map fun b => dialect.dialect.identifier true b.1.name))
      ([.mark ','].intercalate (bound.map fun b => [.name b.1.name])) :=
    reads_listed bound _ _ fun b _ => reads_identifier b.1.name
  have values : Passes dialect.delimiters " VALUES " [.word "VALUES"] :=
    passes_spaced ["VALUES"] rfl rfl
  have marks : Reads dialect.delimiters
      (", ".intercalate (bound.map (Form.mark dialect.dialect)))
      ([.mark ','].intercalate (bound.map fun b => [.word (Form.mark dialect.dialect b)])) :=
    reads_listed bound _ _ fun b here => reads_keyword (isKeyword_mark (named b here) b.2).1
  have closing : Passes dialect.delimiters ")" [.mark ')'] := passes_mark rfl rfl
  have start : Passes dialect.delimiters " (" [.mark '('] := passes_blank.append opening
  -- A name or a reference needs what follows it to end it; here that is always a mark or a blank.
  have target := (into.append_reads (reads_table dialect quoted)).append_passes start
    (breaks_of_head rfl)
  have between : Passes dialect.delimiters ") VALUES (" [.mark ')', .word "VALUES", .mark '('] :=
    closing.append (values.append opening)
  have inserted := (names.append_passes between (breaks_of_head rfl)).append_reads marks
  have whole := (target.append_reads inserted).append_passes closing (breaks_of_head rfl)
  unfold Form.insertion
  simp only [Form.inserted, quoted, tokens, List.map_map]
  simpa only [List.append_assoc, List.cons_append, List.nil_append, Function.comp_def] using
    whole.reads

theorem reads_lead (conditional : plan.operation ≠ .insert)
    (named : ∀ c ∈ plan.assigned, isParameterName c.parameter = true) :
    Reads dialect.delimiters (Form.lead dialect.dialect plan (plan.assigned.zipIdx 1))
      (leadTokens dialect plan) := by
  have table := reads_table dialect quoted
  have source := reads_source dialect quoted
  unfold Plan.assigned at named ⊢
  unfold Form.lead leadTokens
  rw [quoted]
  cases op : plan.operation with
  | «exists» =>
    have opening : Passes dialect.delimiters "SELECT 1 FROM "
        [.word "SELECT", .word "1", .word "FROM"] :=
      passes_keywords ["SELECT", "1", "FROM"] rfl rfl
    exact opening.append_reads source
  | delete =>
    have opening : Passes dialect.delimiters "DELETE FROM " [.word "DELETE", .word "FROM"] :=
      passes_keywords ["DELETE", "FROM"] rfl rfl
    exact opening.append_reads table
  | insert => contradiction
  | update =>
    simp only [op] at named
    have opening : Passes dialect.delimiters "UPDATE " [.word "UPDATE"] :=
      passes_keywords ["UPDATE"] rfl rfl
    have between : Passes dialect.delimiters " SET " [.word "SET"] := passes_spaced ["SET"] rfl rfl
    have assignments := reads_equations named (@passes_comma dialect) (breaks_of_head rfl) 1
    have target := (opening.append_reads table).append_passes between (breaks_of_head rfl)
    exact target.append_reads assignments
  | select =>
    have opening : Passes dialect.delimiters "SELECT " [.word "SELECT"] :=
      passes_keywords ["SELECT"] rfl rfl
    have between : Passes dialect.delimiters " FROM " [.word "FROM"] :=
      passes_spaced ["FROM"] rfl rfl
    have columns := (opening.append (passes_limitHead dialect plan)).append_reads
      (reads_projection plan.payload.columns)
    have shown := (columns.append_passes between (breaks_of_head rfl)).append_reads source
    simpa only [List.append_assoc, List.cons_append, List.nil_append] using shown

omit quoted in
/-- The tokens around the condition. -/
theorem tokens_ofPlan (conditional : plan.operation ≠ .insert) :
    (ofPlan dialect.dialect plan).tokens dialect =
      leadTokens dialect plan ++ .word "WHERE" :: pairs (.word "AND")
          (ofBound dialect.dialect (1 + plan.assigned.length) plan.predicate.columns) ++
        if plan.operation = .select then limitTokens dialect plan.readLimit else [] := by
  unfold ofPlan leadTokens Plan.assigned
  cases op : plan.operation with
  | insert => contradiction
  | «exists» | delete | update | select => simp [tokens]

/-- A statement reads as the tokens of what it says. -/
theorem reads_text (named : ∀ c ∈ plan.bound, isParameterName c.parameter = true) :
    Reads dialect.delimiters (Form.text dialect.dialect plan (plan.bound.zipIdx 1))
      ((ofPlan dialect.dialect plan).tokens dialect) := by
  by_cases inserts : plan.operation = .insert
  · simp only [Plan.bound, inserts] at named
    have whole := reads_insertion dialect quoted fun b (here : b ∈ plan.payload.columns.zipIdx 1) =>
      named b.1 (List.fst_mem_of_mem_zipIdx here)
    have names : (plan.payload.columns.zipIdx 1).map (fun b => b.1.name) =
        plan.payload.columns.map Column.name := by
      have firsts := congrArg (List.map Column.name) (List.zipIdx_map_fst 1 plan.payload.columns)
      rwa [List.map_map] at firsts
    simpa only [Form.text, Plan.bound, ofPlan, inserts, names] using whole
  · simp only [Plan.bound_eq inserts, List.mem_append] at named
    have lead := reads_lead dialect quoted inserts fun c here => named c (.inl here)
    have condition := @reads_condition dialect plan.predicate.columns
      (fun c here => named c (.inr here)) (1 + plan.assigned.length)
    obtain ⟨trail, last⟩ := reads_trail dialect plan
    have breaks : Breaks " WHERE " := breaks_of_head rfl
    rw [Form.text_eq inserts, quoted, tokens_ofPlan dialect inserts]
    exact (lead.append condition (breaks.append _).opens).append trail last

end

section
variable {dialect : DialectName}

theorem ofBound_ne_nil {columns : List Column} (nonempty : columns ≠ []) (place : Nat) :
    ofBound dialect.dialect place columns ≠ [] := by
  simpa [ofBound] using nonempty

theorem referring_of_mem_ofBound {columns : List Column} {place : Nat}
    (named : ∀ c ∈ columns, isParameterName c.parameter = true) :
    ∀ pair ∈ ofBound dialect.dialect place columns, Referring pair.2 := by
  intro pair here
  obtain ⟨b, member, rfl⟩ := List.mem_map.mp here
  exact (isKeyword_mark (named b.1 (List.fst_mem_of_mem_zipIdx member)) b.2).2

/-- What the plan of a statement says can be read. -/
theorem legible_ofPlan {plan : Plan}
    (located : plan.operation.requiresPredicate = true → plan.predicate.columns ≠ [])
    (carried : plan.operation.requiresPayload = true → plan.payload.columns ≠ [])
    (named : ∀ c ∈ plan.bound, isParameterName c.parameter = true) :
    (ofPlan dialect.dialect plan).Legible := by
  unfold Plan.bound at named
  unfold ofPlan
  cases op : plan.operation with
  | «exists» | delete =>
    simp only [op] at located named
    exact ⟨ofBound_ne_nil (located rfl) 1, referring_of_mem_ofBound named⟩
  | insert =>
    simp only [op] at carried
    exact ⟨by simpa using carried rfl, by simpa using carried rfl⟩
  | update =>
    simp only [op, List.mem_append] at located carried named
    exact ⟨ofBound_ne_nil (carried rfl) 1,
      referring_of_mem_ofBound fun c here => named c (.inl here),
      ofBound_ne_nil (located rfl) _, referring_of_mem_ofBound fun c here => named c (.inr here)⟩
  | select =>
    simp only [op] at located carried named
    exact ⟨by simpa using carried rfl, ofBound_ne_nil (located rfl) 1,
      referring_of_mem_ofBound named⟩

end
end Reading
end EntityCrud.Sql

namespace EntityCrud
open Sql (decode Reading DialectName)

theorem Plan.isParameterName_of_mem_bound {op : Operation} {shape : Shape} {columns : List Column}
    {table : Table} {options : Options} (usable : fault? columns table options = none) :
    ∀ c ∈ (assemble op shape columns table options).bound, isParameterName c.parameter = true := by
  intro c carried
  suffices placed : c ∈ (assemble op shape columns table options).predicate.columns ++
      (assemble op shape columns table options).payload.columns by
    obtain ⟨_, _, named, _⟩ := Column.fault?_eq_none_iff.mp (fault?_of_placed usable placed)
    exact named
  unfold bound at carried
  split at carried
  · exact List.mem_append_right _ carried
  · exact List.mem_append.mpr (List.mem_append.mp carried).symm
  all_goals exact List.mem_append_left _ carried

namespace Statement

theorem decode_sql {op : Operation} {shape : Shape} {columns : List Column} {table : Table}
    {options : Options} {s : Statement}
    (compiled : compile op shape columns table options = .ok s)
    (quoted : options.encapsulate = true) :
    decode options.dialect s.sql =
      some (.ofPlan options.dialect.dialect (Plan.assemble op shape columns table options)) := by
  obtain ⟨usable, _, rendered, rfl⟩ := compile_eq_ok_iff.mp compiled
  obtain ⟨located, carried, rfl⟩ := ofPlan_eq_ok_iff.mp rendered
  have named := @Plan.isParameterName_of_mem_bound op shape columns table options usable
  have read := (Reading.reads_text options.dialect quoted named).lex_eq
  have legible := @Reading.legible_ofPlan options.dialect _ located carried named
  rw [decode, read, Option.bind_some, Reading.ofTokens_tokens options.dialect legible]

/-- A statement with quoted names is decoded to what its plan says, whatever its names contain.
Two such statements of one dialect with one text therefore say the same. -/
theorem decode_compile {op : Operation} {shape : Shape} {columns : List Column} {table : Table}
    {options : Options} {s : Statement}
    (compiled : compile op shape columns table options = .ok s)
    (quoted : options.encapsulate = true) :
    let reading := Reading.ofPlan options.dialect.dialect
    let plan := Plan.assemble op shape columns table options
    decode options.dialect s.sql = some (reading plan) ∧
      ∀ {op' : Operation} {shape' : Shape} {columns' : List Column} {table' : Table}
        {options' : Options} {s' : Statement},
        compile op' shape' columns' table' options' = .ok s' → options'.encapsulate = true →
        options'.dialect = options.dialect → s'.sql = s.sql →
        reading (Plan.assemble op' shape' columns' table' options') = reading plan := by
  intro reading plan
  have decoded := decode_sql compiled quoted
  refine ⟨decoded, ?_⟩
  intro op' shape' columns' table' options' s' compiled' quoted' sameDialect sameText
  have decoded' := decode_sql compiled' quoted'
  rw [sameDialect, sameText, decoded] at decoded'
  exact (Option.some.inj decoded').symm

/-- Names that would close their delimiters, start a clause or pass for a reference. -/
def hostileColumns : List Column :=
  [{ name := "Id] = 1 OR [1", parameter := "@Id", primaryKey := true },
    { name := "a.], [b", parameter := "@A", aliasName := some "x] FROM [y" },
    { name := "@Id --\n", parameter := "@B" }]

theorem hostile_select_decoded : ∃ s,
    compile .select .single hostileColumns { name := "dbo.T] WITH (NOLOCK" }
        { encapsulate := true, tableAlias := some "t] WHERE (", dirtyReads := true,
          readLimitEnabled := true, readLimit := 7 } = .ok s ∧
      decode .sqlServer s.sql = some (.select (some 7)
        [("a.], [b", some "x] FROM [y"), ("@Id --\n", none)]
        ⟨"dbo.T] WITH (NOLOCK", some "t] WHERE (", true⟩ [("Id] = 1 OR [1", "@Id")]) := by
  have compiled : compile .select .single hostileColumns { name := "dbo.T] WITH (NOLOCK" }
    { encapsulate := true, tableAlias := some "t] WHERE (", dirtyReads := true,
      readLimitEnabled := true, readLimit := 7 } = .ok _ := rfl
  exact ⟨_, compiled, (decode_compile compiled rfl).1⟩

end Statement
end EntityCrud
