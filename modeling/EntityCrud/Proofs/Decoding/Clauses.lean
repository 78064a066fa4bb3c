import EntityCrud.Proofs.Decoding.Texts
/-! The clauses of a statement with quoted names as tokens: sources, projections, conditions
and limits. -/
namespace EntityCrud.Sql.Reading

section
variable (d : Dialect)

def ofColumn (c : Column) : String × Option String := (c.name, c.aliasName)

/-- The columns with their references, the first of which has the given place. -/
def ofBound (place : Nat) (columns : List Column) : List (String × String) :=
  (columns.zipIdx place).map fun b => (b.1.name, Form.mark d b)

def Source.ofPlan (plan : Plan) : Source :=
  ⟨plan.table, plan.aliasName, plan.dirtyReads && d.dirtyReadHint.isSome⟩

end

section
variable {dialect : DialectName}

theorem reads_shownAs (name : String) (shown : Option String) :
    Reads dialect.delimiters
      (dialect.dialect.identifier true name ++ Form.shownAs dialect.dialect true shown)
      (shownTokens (name, shown)) := by
  cases shown with
  | none => simpa [Form.shownAs, shownTokens] using reads_identifier name
  | some shown =>
    have between : Passes dialect.delimiters " AS " [.word "AS"] := passes_spaced ["AS"] rfl rfl
    have breaks : Breaks " AS " := breaks_of_head rfl
    exact (reads_identifier name).append (between.append_reads (reads_identifier shown))
      (breaks.append _).opens

theorem reads_equation {c : Column} (named : isParameterName c.parameter = true) (place : Nat) :
    Reads dialect.delimiters (Form.equation dialect.dialect true (c, place))
      (pairTokens (c.name, Form.mark dialect.dialect (c, place))) := by
  have equals : Passes dialect.delimiters " = " [.word "="] := passes_spaced ["="] rfl rfl
  have reference : Reads dialect.delimiters (Form.mark dialect.dialect (c, place))
      [.word (Form.mark dialect.dialect (c, place))] :=
    reads_keyword (isKeyword_mark named place).1
  have breaks : Breaks " = " := breaks_of_head rfl
  rw [Form.equation, String.append_assoc]
  exact (reads_identifier c.name).append (equals.append_reads reference) (breaks.append _).opens

/-- Equations between separators, with the places of their parameters. -/
theorem reads_equations {separator : String} {between : Token} {columns : List Column}
    (named : ∀ c ∈ columns, isParameterName c.parameter = true)
    (passes : Passes dialect.delimiters separator [between]) (breaks : Breaks separator)
    (place : Nat) :
    Reads dialect.delimiters
      (separator.intercalate ((columns.zipIdx place).map (Form.equation dialect.dialect true)))
      (pairs between (ofBound dialect.dialect place columns)) := by
  rw [pairs, ofBound, List.map_map]
  refine Reads.intercalate passes breaks _ fun b member => ?_
  exact reads_equation (named b.1 (List.fst_mem_of_mem_zipIdx member)) b.2

theorem reads_condition {columns : List Column}
    (named : ∀ c ∈ columns, isParameterName c.parameter = true) (place : Nat) :
    Reads dialect.delimiters (Form.condition dialect.dialect true (columns.zipIdx place))
      (.word "WHERE" :: pairs (.word "AND") (ofBound dialect.dialect place columns)) := by
  have opening : Passes dialect.delimiters " WHERE " [.word "WHERE"] :=
    passes_spaced ["WHERE"] rfl rfl
  have between : Passes dialect.delimiters " AND " [.word "AND"] := passes_spaced ["AND"] rfl rfl
  exact opening.append_reads (reads_equations named between (breaks_of_head rfl) place)

/-- Single tokens between commas. -/
theorem reads_listed {α : Type} (items : List α) (text : α → String) (token : α → Token)
    (each : ∀ a ∈ items, Reads dialect.delimiters (text a) [token a]) :
    Reads dialect.delimiters (", ".intercalate (items.map text))
      ([.mark ','].intercalate (items.map fun a => [token a])) :=
  Reads.intercalate passes_comma (breaks_of_head rfl) items each

theorem reads_projection (columns : List Column) :
    Reads dialect.delimiters
      (", ".intercalate (columns.map (Form.projection dialect.dialect true)))
      ([.mark ','].intercalate ((columns.map ofColumn).map shownTokens)) := by
  rw [List.map_map]
  exact Reads.intercalate passes_comma (breaks_of_head rfl) columns
    fun c _ => reads_shownAs c.name c.aliasName

end

section
variable (dialect : DialectName)

theorem reads_hint (plan : Plan) :
    Reads dialect.delimiters (Form.hint dialect.dialect plan)
        (if (Source.ofPlan dialect.dialect plan).hint then hintTokens else []) ∧
      Opens (Form.hint dialect.dialect plan) := by
  have nothing : Reads dialect.delimiters "" [] ∧ Opens "" := ⟨passes_empty.reads, opens_empty⟩
  unfold Form.hint Source.ofPlan
  cases plan.dirtyReads with
  | false => exact nothing
  | true =>
    cases dialect with
    | sqlServer =>
      have lock : Passes (DialectName.delimiters .sqlServer) " WITH " [.word "WITH"] :=
        passes_spaced ["WITH"] rfl rfl
      have opening : Passes (DialectName.delimiters .sqlServer) "(" [.mark '('] :=
        passes_mark rfl rfl
      have word : Reads (DialectName.delimiters .sqlServer) "NOLOCK" [.word "NOLOCK"] :=
        reads_keyword rfl
      have closing : Passes (DialectName.delimiters .sqlServer) ")" [.mark ')'] :=
        passes_mark rfl rfl
      have inside := word.append_passes closing (breaks_of_head rfl)
      exact ⟨(lock.append (opening.append inside)).reads, (breaks_of_head rfl).opens⟩
    | postgres => exact nothing

theorem reads_table {plan : Plan} (quoted : plan.encapsulate = true) :
    Reads dialect.delimiters (Form.table dialect.dialect plan) [.name plan.table] := by
  rw [Form.table, quoted]
  exact reads_identifier plan.table

theorem reads_source {plan : Plan} (quoted : plan.encapsulate = true) :
    Reads dialect.delimiters (Form.source dialect.dialect plan)
      (Source.ofPlan dialect.dialect plan).tokens := by
  obtain ⟨hinted, opens⟩ := reads_hint dialect plan
  rw [Form.source, Form.table, quoted]
  exact (reads_shownAs plan.table plan.aliasName).append hinted opens

theorem passes_limitHead (plan : Plan) :
    Passes dialect.delimiters (Form.limit plan dialect.dialect.limitHead)
      (topTokens dialect plan.readLimit) := by
  unfold Form.limit
  cases plan.readLimit with
  | none => cases dialect <;> exact passes_empty
  | some n =>
    cases dialect with
    | sqlServer =>
      have top : Passes (DialectName.delimiters .sqlServer) "TOP " [.word "TOP"] :=
        passes_keywords ["TOP"] rfl rfl
      have opening : Passes (DialectName.delimiters .sqlServer) "(" [.mark '('] :=
        passes_mark rfl rfl
      have number : Reads (DialectName.delimiters .sqlServer) n.toNat.repr [.word n.toNat.repr] :=
        reads_keyword (isKeyword_number n.toNat)
      have closing : Passes (DialectName.delimiters .sqlServer) ")" [.mark ')'] :=
        passes_mark rfl rfl
      have head : Passes (DialectName.delimiters .sqlServer) "TOP (" [.word "TOP", .mark '('] :=
        top.append opening
      have tail : Passes (DialectName.delimiters .sqlServer) (n.toNat.repr ++ ") ")
          [.word n.toNat.repr, .mark ')'] :=
        number.append_passes (closing.append passes_blank) (breaks_of_head rfl)
      have written : Dialect.sqlServer.limitHead n = "TOP (" ++ (n.toNat.repr ++ ") ") :=
        String.append_assoc
      change Passes _ (Dialect.sqlServer.limitHead n) _
      rw [written]
      exact head.append tail
    | postgres => exact passes_empty

theorem reads_limitTail (plan : Plan) :
    Reads dialect.delimiters (Form.limit plan dialect.dialect.limitTail)
        (limitTokens dialect plan.readLimit) ∧
      Opens (Form.limit plan dialect.dialect.limitTail) := by
  have nothing : Reads dialect.delimiters "" [] ∧ Opens "" := ⟨passes_empty.reads, opens_empty⟩
  unfold Form.limit
  cases plan.readLimit with
  | none => cases dialect <;> exact nothing
  | some n =>
    cases dialect with
    | sqlServer => exact nothing
    | postgres =>
      have closing : Passes (DialectName.delimiters .postgres) " LIMIT " [.word "LIMIT"] :=
        passes_spaced ["LIMIT"] rfl rfl
      have breaks : Breaks " LIMIT " := breaks_of_head rfl
      exact ⟨closing.append_reads (reads_keyword (isKeyword_number n.toNat)),
        (breaks.append _).opens⟩

theorem reads_trail (plan : Plan) :
    Reads dialect.delimiters (Form.trail dialect.dialect plan)
        (if plan.operation = .select then limitTokens dialect plan.readLimit else []) ∧
      Opens (Form.trail dialect.dialect plan) := by
  unfold Form.trail
  cases plan.operation with
  | select => exact reads_limitTail dialect plan
  | «exists» | delete | insert | update => exact ⟨passes_empty.reads, opens_empty⟩

end
end EntityCrud.Sql.Reading
