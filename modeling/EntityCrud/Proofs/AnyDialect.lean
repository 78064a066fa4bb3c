import EntityCrud.Proofs.Checking
import Mathlib.Data.List.Forall2
/-! The dialect decides the spelling and nothing else. Two dialects refuse the same plans for the
same causes, and their statements of any other plan differ in the text alone; so the checks of one
file under two dialects differ in the texts of the statements that compile, and nowhere else. -/
namespace EntityCrud
open Sql (Dialect DialectName)

/-- Two outcomes with the same cause, or with one statement in two spellings. -/
inductive Statement.Respelled : Except Refusal Statement → Except Refusal Statement → Prop where
  | refused (cause : Refusal) : Respelled (.error cause) (.error cause)
  | compiled (s : Statement) (sql : String) : Respelled (.ok s) (.ok { s with sql })

namespace Statement

theorem Respelled.map_timeout {outcome other : Except Refusal Statement}
    (respelled : Respelled outcome other) (timeout : Option Timeout) :
    Respelled (outcome.map fun s => { s with timeout }) (other.map fun s => { s with timeout }) := by
  cases respelled with
  | refused cause => exact .refused cause
  | compiled s sql => exact .compiled { s with timeout } sql

/-- Two outcomes with the same cause, or two statements with the same parameters in the same
order. -/
def BindAlike : Except Refusal Statement → Except Refusal Statement → Prop
  | .error cause, .error cause' => cause = cause'
  | .ok s, .ok s' => s.parameters = s'.parameters
  | _, _ => False

theorem Respelled.bindAlike {outcome other : Except Refusal Statement}
    (respelled : Respelled outcome other) : BindAlike outcome other := by
  cases respelled with
  | refused cause => rfl
  | compiled s sql => rfl

/-- One run of the writer follows the other: the checks before it read the plan alone, and the list
of parameters is that of the plan. -/
theorem respelled_ofPlan (plan : Plan) (d d' : Dialect) :
    Respelled (ofPlan plan d) (ofPlan plan d') := by
  rw [ofPlan_eq, ofPlan_eq]
  split
  · exact .refused _
  · split
    · exact .refused _
    · exact .compiled _ _

theorem respelled_compile (op : Operation) (shape : Shape) (columns : List Column) (table : Table)
    (options : Options) (dialect : DialectName) :
    Respelled (compile op shape columns table options)
      (compile op shape columns table { options with dialect }) := by
  have unread : Plan.fault? columns table { options with dialect } =
      Plan.fault? columns table options := rfl
  have same : Plan.assemble op shape columns table { options with dialect } =
      Plan.assemble op shape columns table options := rfl
  rw [compile_eq, compile_eq, unread, same]
  cases Plan.fault? columns table options with
  | some fault => exact .refused _
  | none => exact (respelled_ofPlan _ _ _).map_timeout options.timeout

end Statement

namespace CommandLine
open Statement (Respelled)

namespace Report

/-- Two lines about one statement with the same mark, which show the same cause where there is one. -/
structure Line.SameMark (l l' : Line) : Prop where
  item : l.item = l'.item
  label : l.label = l'.label
  mark : l.compiles = l'.compiles
  cause : l.compiles = false → l.text = l'.text

theorem Line.sameMark_ofOutcome {outcome other : Except Refusal Statement}
    (respelled : Respelled outcome other) (item : Check.Item) (label : String) :
    SameMark (ofOutcome item label outcome) (ofOutcome item label other) := by
  cases respelled with
  | refused cause => exact ⟨rfl, rfl, rfl, fun _ => rfl⟩
  | compiled s sql => exact ⟨rfl, rfl, rfl, nofun⟩

section
variable {project : Project}

theorem sameMark_lineOf (e : Entity) (item : Check.Item) (label : String)
    (dialect dialect' : Option DialectName) :
    Line.SameMark (lineOf project dialect e item label) (lineOf project dialect' e item label) :=
  Line.sameMark_ofOutcome (Statement.respelled_compile _ _ _ _
    (options project dialect e item.bulkLoad) (dialect'.getD project.source.dialect)) item label

theorem sameMark_lines (e : Entity) (dialect dialect' : Option DialectName) :
    List.Forall₂ Line.SameMark (lines project dialect e) (lines project dialect' e) := by
  unfold lines
  rw [List.forall₂_map_left_iff, List.forall₂_map_right_iff, List.forall₂_same]
  rintro ⟨item, label⟩ _
  exact sameMark_lineOf e item label dialect dialect'

theorem sameMark_allLines (dialect dialect' : Option DialectName) :
    List.Forall₂ Line.SameMark (allLines project dialect) (allLines project dialect') := by
  refine List.rel_flatMap (R := Eq) ?_ ?_
  · exact List.forall₂_same.mpr fun _ _ => rfl
  · rintro e _ rfl
    exact sameMark_lines e dialect dialect'

theorem countP_eq_of_sameMark {ls ls' : List Line} (same : List.Forall₂ Line.SameMark ls ls') :
    (ls.countP fun l => !l.compiles) = ls'.countP fun l => !l.compiles := by
  induction same with
  | nil => rfl
  | cons first _ ih => rw [List.countP_cons, List.countP_cons, ih, first.mark]

/-- The number of crosses does not depend on the dialect, and the conclusion on nothing but it. -/
theorem failures_eq (dialect dialect' : Option DialectName) :
    failures project dialect = failures project dialect' :=
  countP_eq_of_sameMark (sameMark_allLines dialect dialect')

end

end Report

namespace Check

/-- Whatever the two dialects are, a plan that one refuses the other refuses for the same cause,
and otherwise the two statements have the same parameters in the same order. So two checks of an
accepted file, each with any choice of a dialect or with none, print the same lines about the same
entities up to the texts behind the ticks; both succeed, or both count the same crosses. -/
theorem dialect_only_respells :
    (∀ (plan : Plan) (d d' : Dialect),
      Statement.BindAlike (Statement.ofPlan plan d) (Statement.ofPlan plan d')) ∧
    ∀ (request : CheckRequest) (dialect' : Option DialectName) {text : String} {project : Project},
      Project.parse text = .ok project →
      let checked := Check.run request (.ok text)
      let checked' := Check.run { request with dialect := dialect' } (.ok text)
      (checked.output = Report.print request.config project request.dialect ∧
        checked'.output = Report.print request.config project dialect') ∧
      (∀ e ∈ project.entities, List.Forall₂ Report.Line.SameMark
        (Report.lines project request.dialect e) (Report.lines project dialect' e)) ∧
      checked.failure = Report.verdict project request.dialect ∧
      checked'.failure = Report.verdict project request.dialect := by
  constructor
  · intro plan d d'
    exact (Statement.respelled_ofPlan plan d d').bindAlike
  · intro request dialect' text project accepted
    have checked (request : CheckRequest) :
        Check.run request (.ok text) = outcome project request := by
      simp only [Check.run, load_of_accepted accepted]
    have verdict : Report.verdict project dialect' = Report.verdict project request.dialect := by
      rw [Report.verdict, Report.verdict, Report.failures_eq dialect' request.dialect]
    simp only [checked, Report.output_spec, Report.failure_spec]
    exact ⟨⟨trivial, trivial⟩, fun e _ => Report.sameMark_lines e _ _, trivial, verdict⟩

/-- The notes for one database and, without a word on the dialect, for the other. -/
theorem notes_marked_alike :
    (Check.run noteCheck (.ok noteFile)).output = String.join
      ["Checking notes.toml\n\nNote\n",
        "  ✓ Exists (single)              SELECT 1 FROM Notes WHERE Id = $1\n",
        "  ✓ Delete (single)              DELETE FROM Notes WHERE Id = $1\n",
        "  ✓ Insert (single)              INSERT INTO Notes (Id, Text) VALUES ($1, $2)\n",
        "  ✓ Select (single)              SELECT Text FROM Notes WHERE Id = $1\n",
        "  ✓ Update (single)              UPDATE Notes SET Text = $1 WHERE Id = $2\n",
        "  ✗ Select (collection)          Select on 'Note' has no payload columns\n",
        "  ✓ Select (collection, bulk)    SELECT Text FROM Notes WHERE Id = $1\n"] ∧
    (Check.run { noteCheck with dialect := none } (.ok noteFile)).output = String.join
      ["Checking notes.toml\n\nNote\n",
        "  ✓ Exists (single)              SELECT 1 FROM Notes WITH (NOLOCK) WHERE Id = @Id\n",
        "  ✓ Delete (single)              DELETE FROM Notes WHERE Id = @Id\n",
        "  ✓ Insert (single)              INSERT INTO Notes (Id, Text) VALUES (@Id, @Text)\n",
        "  ✓ Select (single)              SELECT Text FROM Notes WHERE Id = @Id\n",
        "  ✓ Update (single)              UPDATE Notes SET Text = @Text WHERE Id = @Id\n",
        "  ✗ Select (collection)          Select on 'Note' has no payload columns\n",
        "  ✓ Select (collection, bulk)    SELECT Text FROM Notes WHERE Id = @Id\n"] ∧
    (Check.run { noteCheck with dialect := none } (.ok noteFile)).failure =
      some "1 statement(s) failed to compile" := by
  obtain ⟨⟨output, output'⟩, _, _, failure⟩ :=
    dialect_only_respells.2 noteCheck none noteFile_accepted
  refine ⟨output.trans ?_, output'.trans ?_, failure.trans ?_⟩
  · decide +kernel
  · decide +kernel
  · decide

end Check
end CommandLine
end EntityCrud
