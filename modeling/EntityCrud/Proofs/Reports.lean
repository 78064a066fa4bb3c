import EntityCrud.CommandLine.Run
/-! The report of a check as its reader has it: a heading with the file, a part for each entity with a
line for each of its statements, and a conclusion where all statements compile. The format is written out
here apart from the writer, and the writer is proved to follow it. -/
namespace EntityCrud.CommandLine.Report
open Check (Item)
open Sql (DialectName)

/-- What is checked of every entity, with the labels of the lines in 28 columns. -/
def records : List (Item × String) :=
  [(⟨.exists, .single, false⟩, "Exists (single)             "),
    (⟨.delete, .single, false⟩, "Delete (single)             "),
    (⟨.insert, .single, false⟩, "Insert (single)             "),
    (⟨.select, .single, false⟩, "Select (single)             "),
    (⟨.update, .single, false⟩, "Update (single)             ")]

/-- What is checked as well of an entity with a reference to its parent. -/
def collections : List (Item × String) :=
  [(⟨.select, .collection, false⟩, "Select (collection)         "),
    (⟨.select, .collection, true⟩, "Select (collection, bulk)   ")]

/-- What is checked of an entity, in the order of the lines. -/
def statements (e : Entity) : List (Item × String) :=
  records ++ if e.columns.any fun c => c.foreignKey then collections else []

/-- The options for a statement of an entity, under a dialect that may stand in for the project's. -/
def options (project : Project) (dialect : Option DialectName) (e : Entity) (bulkLoad : Bool) :
    Options where
  bulkLoad
  dirtyReads := project.source.dirtyReads
  readLimitEnabled := (e.readLimit.or project.adapter.readLimit).isSome
  readLimit := (e.readLimit.or project.adapter.readLimit).getD 0
  encapsulate := project.source.encapsulate
  tableAlias := none
  dialect := dialect.getD project.source.dialect
  timeout := project.source.timeoutSeconds.map fun n =>
    { seconds := n, nanos := 0, nanos_lt := Timeout.zero_nanos_lt }

/-- A line of a report. The text is that of the statement, or of the cause why there is none. -/
structure Line where
  item : Item
  label : String
  compiles : Bool
  text : String
  deriving DecidableEq

namespace Line

def ofOutcome (item : Item) (label : String) : Except Refusal Statement → Line
  | .ok s => { item, label, compiles := true, text := s.sql }
  | .error cause => { item, label, compiles := false, text := cause.message }

/-- A tick or a cross, the label and the text. -/
def print (l : Line) : String :=
  (if l.compiles then "  ✓ " else "  ✗ ") ++ l.label ++ " " ++ l.text ++ "\n"

end Line

/-- The line about one statement of an entity. -/
def lineOf (project : Project) (dialect : Option DialectName) (e : Entity) (item : Item)
    (label : String) : Line :=
  .ofOutcome item label (Statement.compile item.operation item.shape e.columns e.table
    (options project dialect e item.bulkLoad))

/-- The lines about an entity. -/
def lines (project : Project) (dialect : Option DialectName) (e : Entity) : List Line :=
  (statements e).map fun (item, label) => lineOf project dialect e item label

def allLines (project : Project) (dialect : Option DialectName) : List Line :=
  project.entities.flatMap (lines project dialect)

def failures (project : Project) (dialect : Option DialectName) : Nat :=
  (allLines project dialect).countP fun l => !l.compiles

/-- The part about an entity: an empty line, the name of the entity and the lines. -/
def part (project : Project) (dialect : Option DialectName) (e : Entity) : String :=
  "\n" ++ e.name ++ "\n" ++ String.join ((lines project dialect e).map Line.print)

/-- The whole report on the project in a file. -/
def print (file : String) (project : Project) (dialect : Option DialectName) : String :=
  "Checking " ++ file ++ "\n" ++ String.join (project.entities.map (part project dialect)) ++
    if failures project dialect = 0 then "\nAll statements compiled.\n" else ""

/-- The message with which a check fails, if it does. -/
def verdict (project : Project) (dialect : Option DialectName) : Option String :=
  if failures project dialect = 0 then none
  else some (toString (failures project dialect) ++ " statement(s) failed to compile")

/-! ## The writer follows the format -/

section
variable {project : Project} {dialect : Option DialectName} {e : Entity}

theorem items_spec (e : Entity) : Check.items e = (statements e).map Prod.fst := by
  unfold Check.items statements Entity.hasForeignKey
  rw [List.map_append]
  split <;> rfl

theorem label_spec {item : Item} {label : String} (listed : (item, label) ∈ statements e) :
    Check.padRight 28 item.label = label := by
  have all : ∀ known ∈ records ++ collections, Check.padRight 28 known.1.label = known.2 := by
    decide
  apply all (item, label)
  unfold statements at listed
  split at listed
  · exact listed
  · rw [List.append_nil] at listed
    exact List.mem_append_left _ listed

theorem options_spec (item : Item) :
    Check.options project dialect e item = options project dialect e item.bulkLoad := by
  cases dialect <;> rfl

theorem report_spec {item : Item} {label : String} (listed : (item, label) ∈ statements e)
    (outcome : Except Refusal Statement) :
    Check.Result.report ⟨item, outcome⟩ = (Line.ofOutcome item label outcome).print := by
  unfold Check.Result.report
  cases outcome <;> simp only [label_spec listed] <;> rfl

theorem isFailure_spec (item : Item) (label : String) (outcome : Except Refusal Statement) :
    Check.Result.isFailure ⟨item, outcome⟩ = !(Line.ofOutcome item label outcome).compiles := by
  cases outcome <;> rfl

/-- What the writer finds of an entity, each with the line that it is to write. -/
theorem results_spec : Check.results project dialect e =
    (statements e).map fun (item, _) => ⟨item, Statement.compile item.operation item.shape
      e.columns e.table (options project dialect e item.bulkLoad)⟩ := by
  unfold Check.results Check.compile
  rw [items_spec, List.map_map]
  simp only [options_spec]
  rfl

/-- The writer puts an empty line, the name of the entity and the marked lines in order. -/
theorem entityReport_spec :
    Check.entityReport e (Check.results project dialect e) = part project dialect e := by
  have written : (Check.results project dialect e).map Check.Result.report =
      (lines project dialect e).map Line.print := by
    rw [results_spec, lines, List.map_map, List.map_map]
    apply List.map_congr_left
    intro _ listed
    exact report_spec listed _
  rw [Check.entityReport, written]
  rfl

theorem failures_spec :
    ((project.entities.map fun e => (e, Check.results project dialect e)).flatMap
      Prod.snd).countP Check.Result.isFailure = failures project dialect := by
  have counted (e : Entity) : (Check.results project dialect e).map Check.Result.isFailure =
      (lines project dialect e).map fun l => !l.compiles := by
    rw [results_spec, lines, List.map_map, List.map_map]
    apply List.map_congr_left
    rintro ⟨item, label⟩ _
    exact isFailure_spec item label _
  calc ((project.entities.map fun e => (e, Check.results project dialect e)).flatMap
        Prod.snd).countP Check.Result.isFailure
    _ = ((project.entities.flatMap (Check.results project dialect)).map
          Check.Result.isFailure).countP id := by
      rw [List.flatMap_map, List.countP_map]
      rfl
    _ = ((project.entities.flatMap (lines project dialect)).map
          fun l => !l.compiles).countP id := by
      simp only [List.map_flatMap, counted]
    _ = failures project dialect := List.countP_map

variable {request : CheckRequest}

theorem output_spec : (Check.outcome project request).output =
    print request.config project request.dialect := by
  have parts : (fun e => Check.entityReport e (Check.results project request.dialect e)) =
      part project request.dialect := funext fun e => entityReport_spec
  rw [print, ← parts]
  simp only [Check.outcome, failures_spec, List.map_map]
  split
  · exact String.append_assoc ..
  · exact (String.append_empty).symm

theorem failure_spec :
    (Check.outcome project request).failure = verdict project request.dialect := by
  simp only [Check.outcome, failures_spec]
  unfold verdict
  split <;> rfl

theorem verdict_eq_none_iff :
    verdict project dialect = none ↔ ∀ l ∈ allLines project dialect, l.compiles = true := by
  rw [verdict, ite_eq_left_iff, failures, List.countP_eq_zero]
  simp

theorem eq_of_verdict {message : String} (failed : verdict project dialect = some message) :
    message = toString (failures project dialect) ++ " statement(s) failed to compile" := by
  rw [verdict] at failed
  split at failed
  · contradiction
  · exact (Option.some.inj failed).symm

theorem lineOf_item (project : Project) (dialect : Option DialectName) (e : Entity) (item : Item)
    (label : String) : (lineOf project dialect e item label).item = item := by
  unfold lineOf Line.ofOutcome
  split <;> rfl

theorem lineOf_mem {item : Item} {label : String} (listed : (item, label) ∈ statements e) :
    lineOf project dialect e item label ∈ lines project dialect e :=
  List.mem_map.mpr ⟨_, listed, rfl⟩

/-- Every line stands in the report under the name of its entity. -/
theorem print_of_mem {l : Line} (listed : e ∈ project.entities) (shown : l ∈ lines project dialect e)
    (file : String) : ∃ above earlier later below,
      print file project dialect =
        above ++ ("\n" ++ e.name ++ "\n" ++ earlier ++ l.print ++ later) ++ below := by
  obtain ⟨before, after, entities⟩ := List.append_of_mem listed
  obtain ⟨left, right, all⟩ := List.append_of_mem shown
  refine ⟨"Checking " ++ file ++ "\n" ++ String.join (before.map (part project dialect)),
    String.join (left.map Line.print), String.join (right.map Line.print), ?_, ?_⟩
  · exact String.join (after.map (part project dialect)) ++
      if failures project dialect = 0 then "\nAll statements compiled.\n" else ""
  · have inner : part project dialect e = "\n" ++ e.name ++ "\n" ++
        String.join (left.map Line.print) ++ l.print ++ String.join (right.map Line.print) := by
      rw [part, all, List.map_append, List.map_cons, String.join_append, String.join_cons]
      simp only [String.append_assoc]
    rw [print, entities, List.map_append, List.map_cons, String.join_append, String.join_cons, inner]
    simp only [String.append_assoc]

end

end EntityCrud.CommandLine.Report
