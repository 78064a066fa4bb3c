import EntityCrud.Proofs.Objections
import EntityCrud.Proofs.Projects
import EntityCrud.Proofs.Reports
import EntityCrud.Proofs.Words
/-! A check foretells the compilation of single statements. Every request for one statement is
answered by one of the items that are checked, and the line of that item in the report shows the
statement or the cause that the request is going to meet; only a collection without a reference
to its parent has no line, and it never compiles. -/
namespace EntityCrud.CommandLine

theorem load_of_accepted {text : String} {project : Project}
    (accepted : Project.parse text = .ok project) (file : String) :
    load file (.ok text) = .ok project := by
  simp only [load, accepted]

namespace Compile
variable {project : Project} {e : Entity} {request : CompileRequest} {op : Operation}

/-- Bulk loading as it is asked for, or else as the entity has it, or else as the project has it. -/
def bulkLoad (project : Project) (e : Entity) (request : CompileRequest) : Bool :=
  request.bulkLoad || e.bulkLoad.getD project.adapter.bulkLoad

theorem options_eq : options project e request =
    Report.options project request.dialect e (bulkLoad project e request) := by
  unfold options bulkLoad Project.options
  cases request.dialect <;> cases request.bulkLoad <;> rfl

theorem target_eq (usable : project.fault? = none) (listed : e ∈ project.entities)
    (named : request.entity = e.name) (meant : Text.Plain request.operation op.word) :
    target project request = .ok (e, op) := by
  simp only [target, named, Project.entity?_of_mem usable listed,
    Operation.parse_eq_ok_iff.mpr meant]

theorem report_begins (dialect : Sql.DialectName) (s : Statement) :
    ∃ rest, report dialect s = s.sql ++ "\n" ++ rest := by
  unfold report
  exact ⟨_, String.append_assoc ..⟩

theorem outcome_of_ok (aimed : target project request = .ok (e, op)) {s : Statement}
    (compiled : Statement.compile op request.shape e.columns e.table (options project e request) =
      .ok s) :
    (outcome project request).failure = none ∧
      ∃ rest, (outcome project request).output = s.sql ++ "\n" ++ rest := by
  simp only [outcome, aimed, compiled]
  exact ⟨trivial, report_begins _ s⟩

theorem outcome_of_error (aimed : target project request = .ok (e, op)) {cause : Refusal}
    (compiled : Statement.compile op request.shape e.columns e.table (options project e request) =
      .error cause) :
    (outcome project request).failure = some (e.name ++ ": " ++ cause.message) := by
  simp only [outcome, aimed, compiled]

end Compile

namespace Check

/-- The item that a compilation comes to, unless it loads a collection of an entity that
refers to no parent. -/
def answering? (e : Entity) (op : Operation) (shape : Shape) (bulkLoad : Bool) : Option Item :=
  match op, shape with
  | .select, .collection =>
    if e.columns.any fun c => c.foreignKey then some ⟨.select, .collection, bulkLoad⟩ else none
  | op, _ => some ⟨op, .single, false⟩

section
variable {e : Entity} {op : Operation} {shape : Shape} {bulkLoad : Bool}

/-- An answering item is the compilation itself for a collection, and otherwise its plainest form. -/
theorem answering?_eq_some {item : Item} (answering : answering? e op shape bulkLoad = some item) :
    (op = .select ∧ shape = .collection ∧ (e.columns.any fun c => c.foreignKey) = true ∧
      item = ⟨.select, .collection, bulkLoad⟩) ∨
    ((op = .select → shape = .single) ∧ item = ⟨op, .single, false⟩) := by
  unfold answering? at answering
  split at answering
  · split at answering
    · rename_i references
      exact .inl ⟨rfl, rfl, references, (Option.some.inj answering).symm⟩
    · contradiction
  · rename_i other
    refine .inr ⟨?_, (Option.some.inj answering).symm⟩
    intro select
    cases shape
    case single => rfl
    case collection => exact (other select rfl).elim

theorem answering?_eq_none (silent : answering? e op shape bulkLoad = none) :
    op = .select ∧ shape = .collection ∧ (e.columns.any fun c => c.foreignKey) = false := by
  unfold answering? at silent
  split at silent
  · split at silent
    · contradiction
    · rename_i references
      exact ⟨rfl, rfl, Bool.eq_false_iff.mpr references⟩
  · contradiction

theorem exists_label {item : Item} (answering : answering? e op shape bulkLoad = some item) :
    ∃ label, (item, label) ∈ Report.statements e := by
  unfold Report.statements
  rcases answering?_eq_some answering with ⟨_, _, references, rfl⟩ | ⟨_, rfl⟩
  · rw [if_pos references]
    cases bulkLoad <;> simp [Report.collections]
  · cases op <;> simp [Report.records]

theorem compile_eq_of_answering {item : Item}
    (answering : answering? e op shape bulkLoad = some item) (project : Project)
    (dialect : Option Sql.DialectName) :
    Statement.compile op shape e.columns e.table (Report.options project dialect e bulkLoad) =
      Statement.compile item.operation item.shape e.columns e.table
        (Report.options project dialect e item.bulkLoad) := by
  rcases answering?_eq_some answering with ⟨rfl, rfl, _, rfl⟩ | ⟨plain, rfl⟩
  · rfl
  · exact Statement.compile_eq_single plain _ _ _

theorem compile_error_of_silent (silent : answering? e op shape bulkLoad = none)
    (options : Options) :
    ∃ cause, Statement.compile op shape e.columns e.table options = .error cause := by
  obtain ⟨rfl, rfl, rootless⟩ := answering?_eq_none silent
  have keyless : Keyless .select .collection (firstWriters e.columns) := by
    intro c first reference
    have given : c ∈ e.columns := (firstWritersAfter_sublist [] e.columns).subset first
    exact List.any_eq_false.mp rootless c given reference
  have objected : Refusal.missingPredicate .select e.table.sourceType ∈
      objections .select .collection e.columns e.table options := by
    apply List.mem_append_right
    apply List.mem_append_left
    rw [objection, if_pos keyless]
    exact List.mem_singleton_self _
  exact Statement.compile_of_objection objected

end

/-- The line about a statement tells what comes of the request for it: the text that is printed first,
or the text of the cause with which the request fails. -/
def Foretells (e : Entity) (l : Report.Line) (compiled : Outcome) : Prop :=
  if l.compiles then compiled.failure = none ∧ ∃ rest, compiled.output = l.text ++ "\n" ++ rest
  else compiled.failure = some (e.name ++ ": " ++ l.text)

theorem foretells_of_answering {project : Project} {e : Entity} {request : CompileRequest}
    {op : Operation} {item : Item} (aimed : Compile.target project request = .ok (e, op))
    (answering : answering? e op request.shape (Compile.bulkLoad project e request) = some item)
    (label : String) :
    Foretells e (Report.lineOf project request.dialect e item label)
      (Compile.outcome project request) := by
  have same := compile_eq_of_answering answering project request.dialect
  rw [← Compile.options_eq] at same
  rw [Report.lineOf, ← same]
  cases compiled : Statement.compile op request.shape e.columns e.table
    (Compile.options project e request) with
  | ok s => exact Compile.outcome_of_ok aimed compiled
  | error cause => exact Compile.outcome_of_error aimed compiled

/-- A check foretells what comes of a request for one statement of an accepted file, under the same
choice of a dialect. The line of the answering item stands in the report under the name of the entity
and shows what the request prints or why it fails; where no item answers, the request fails. The
check succeeds if every line of the report has a tick, and otherwise counts the crosses. -/
theorem foretells_compilation (request : CompileRequest) (check : CheckRequest) {text : String}
    {project : Project} {e : Entity} {op : Operation}
    (accepted : Project.parse text = .ok project) (listed : e ∈ project.entities)
    (named : request.entity = e.name) (meant : Text.Plain request.operation op.word)
    (alike : check.dialect = request.dialect) :
    let compiled := Compile.run request (.ok text)
    let checked := Check.run check (.ok text)
    let all := Report.allLines project check.dialect
    (match answering? e op request.shape
        (request.bulkLoad || e.bulkLoad.getD project.adapter.bulkLoad) with
      | some item =>
        ∃ l ∈ Report.lines project check.dialect e, l.item = item ∧ Foretells e l compiled ∧
          ∃ above earlier later below, checked.output =
            above ++ ("\n" ++ e.name ++ "\n" ++ earlier ++ l.print ++ later) ++ below
      | none => ∃ cause : Refusal, compiled.failure = some (e.name ++ ": " ++ cause.message)) ∧
    checked.output = Report.print check.config project check.dialect ∧
    (checked.failure = none ↔ ∀ l ∈ all, l.compiles = true) ∧
    ∀ message, checked.failure = some message →
      message = toString (all.countP fun l => !l.compiles) ++ " statement(s) failed to compile" := by
  have aimed : Compile.target project request = .ok (e, op) :=
    Compile.target_eq (Project.fault?_of_parse accepted) listed named meant
  have compiled : Compile.run request (.ok text) = Compile.outcome project request := by
    simp only [Compile.run, load_of_accepted accepted]
  have checked : Check.run check (.ok text) = outcome project check := by
    simp only [Check.run, load_of_accepted accepted]
  simp only [compiled, checked, Report.output_spec, Report.failure_spec]
  refine ⟨?_, trivial, Report.verdict_eq_none_iff, fun _ => Report.eq_of_verdict⟩
  split
  · rename_i item answering
    obtain ⟨label, labelled⟩ := exists_label answering
    have shown : Report.lineOf project check.dialect e item label ∈
        Report.lines project check.dialect e := Report.lineOf_mem labelled
    refine ⟨_, shown, Report.lineOf_item .., ?_, Report.print_of_mem listed shown _⟩
    rw [alike]
    exact foretells_of_answering aimed answering label
  · rename_i silent
    obtain ⟨cause, refused⟩ := compile_error_of_silent silent (Compile.options project e request)
    exact ⟨cause, Compile.outcome_of_error aimed refused⟩

/-- An entity whose key refers to its parent, loaded in bulk. -/
def noteFile : String :=
  "[[entities]]\nname=\"Note\"\ntable=\"Notes\"\nbulk_load=true\n" ++
  "[[entities.columns]]\nname=\"Id\"\nprimary_key=true\nforeign_key=true\n" ++
  "[[entities.columns]]\nname=\"Text\"\n"

def noteEntity : Entity where
  name := "Note"
  table := { name := "Notes", sourceType := "Note" }
  bulkLoad := some true
  columns := [{ name := "Id", primaryKey := true, foreignKey := true }, { name := "Text" }]

def noteProject : Project := { entities := [noteEntity] }

theorem noteFile_accepted : Project.parse noteFile = .ok noteProject := by
  have read : (Project.parse noteFile).toOption = some noteProject := by decide +kernel
  cases outcome : Project.parse noteFile with
  | error fault =>
    rw [outcome] at read
    contradiction
  | ok project =>
    rw [outcome] at read
    rw [Option.some.inj read]

/-- A request for the notes of a parent, without a word on bulk loading. -/
def noteRequest : CompileRequest where
  config := "notes.toml"
  entity := "Note"
  operation := "SELECT"
  shape := .collection
  bulkLoad := false
  dialect := some .postgres
  verbose := false

def noteCheck : CheckRequest where
  config := "notes.toml"
  dialect := some .postgres
  verbose := false

/-- The line with bulk loading, as it stands in the report on the notes. -/
def noteLine : Report.Line where
  item := ⟨.select, .collection, true⟩
  label := "Select (collection, bulk)   "
  compiles := true
  text := "SELECT Text FROM Notes WHERE Id = $1"

theorem bulk_line_answers :
    (∃ above below, (Check.run noteCheck (.ok noteFile)).output = above ++
      "  ✓ Select (collection, bulk)    SELECT Text FROM Notes WHERE Id = $1\n" ++ below) ∧
    (∃ rest, (Compile.run noteRequest (.ok noteFile)).output =
      "SELECT Text FROM Notes WHERE Id = $1" ++ "\n" ++ rest) ∧
    ∀ message, (Check.run noteCheck (.ok noteFile)).failure = some message →
      message = "1 statement(s) failed to compile" := by
  have meant : Text.Plain noteRequest.operation Operation.select.word :=
    Text.plain_iff.mpr (by decide)
  obtain ⟨⟨l, shown, item, foretold, above, earlier, later, below, output⟩, _, _, failed⟩ :=
    foretells_compilation noteRequest noteCheck noteFile_accepted
      (List.mem_singleton_self noteEntity) rfl meant rfl
  have only : ∀ l ∈ Report.lines noteProject noteCheck.dialect noteEntity,
      l.item = ⟨.select, .collection, true⟩ → l = noteLine := by decide
  obtain rfl := only l shown item
  have printed : noteLine.print =
      "  ✓ Select (collection, bulk)    SELECT Text FROM Notes WHERE Id = $1\n" := by decide
  have count : (Report.allLines noteProject noteCheck.dialect).countP
      (fun l => !l.compiles) = 1 := by decide
  rw [printed] at output
  rw [count] at failed
  refine ⟨⟨above ++ ("\n" ++ noteEntity.name ++ "\n" ++ earlier), later ++ below, ?_⟩,
    foretold.2, failed⟩
  rw [output]
  simp only [String.append_assoc]

end Check
end EntityCrud.CommandLine
