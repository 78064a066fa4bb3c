import EntityCrud.CommandLine.Directory
import EntityCrud.CommandLine.Help
import EntityCrud.Project.Reading
import EntityCrud.Statement
import EntityCrud.Text.BoxTable
/-! The commands: one compiles a statement of an entity and prints it with its parameters,
the other compiles all statements of a project and reports the refused ones. What they print is
plain text, as it is where no terminal shows colours. -/
namespace EntityCrud.CommandLine
open Sql (DialectName)

/-- What the program prints, the message with which it fails, if it does, and the events of
the compilations on the way. -/
structure Outcome where
  output : String
  failure : Option String := none
  events : List CompileEvent := []
  deriving DecidableEq, Repr

namespace Outcome

def fail (message : String) : Outcome := { output := "", failure := some message }

end Outcome

def line (s : String) : String := s ++ "\n"

/-- The usable project in the text of a file, or the message why there is none. -/
def load (file : String) (text : Except FileFault String) : Except String Project :=
  match text with
  | .error fault => .error (s!"failed to read config file {file}: " ++ fault.message)
  | .ok s =>
    match Project.parse s with
    | .error fault => .error (fault.message file)
    | .ok project => .ok project

namespace Compile

/-- The options of a request: bulk loading may be asked for on the command line. -/
def options (project : Project) (entity : Entity) (request : CompileRequest) : Options :=
  let options := project.options entity request.dialect
  if request.bulkLoad then { options with bulkLoad := true } else options

/-- The type of a parameter as the target database names it. -/
def typeLabel (dialect : DialectName) (p : Parameter) : String :=
  match dialect with
  | .postgres => p.column.type.postgresName
  | .sqlServer => p.column.type.name

def parameterRow (dialect : DialectName) (place : Nat) (p : Parameter) : List String :=
  [toString place, p.name, p.column.name, typeLabel dialect p,
    if p.column.nullable then "yes" else "no", p.column.direction.name]

/-- The rows of the parameters, numbered from the given place. -/
def parameterRows (dialect : DialectName) : Nat → List Parameter → List (List String)
  | _, [] => []
  | place, p :: rest => parameterRow dialect place p :: parameterRows dialect (place + 1) rest

def parameterTable (dialect : DialectName) (parameters : List Parameter) : String :=
  Text.BoxTable.render ["#", "Parameter", "Column", "Type", "Nullable", "Direction"]
    (parameterRows dialect 1 parameters)

def report (dialect : DialectName) (s : Statement) : String :=
  line s.sql ++
    (if s.parameters.isEmpty then "" else line (parameterTable dialect s.parameters)) ++
    match s.timeout with
    | some timeout => line s!"timeout: {timeout.seconds.toNat}s"
    | none => ""

/-- The entity and the operation that a request names. -/
def target (project : Project) (request : CompileRequest) : Except String (Entity × Operation) :=
  match project.entity? request.entity with
  | none => .error s!"no entity named {request.entity} in config"
  | some entity =>
    match Operation.parse request.operation entity.table.sourceType with
    | .error cause => .error cause.message
    | .ok op => .ok (entity, op)

/-- The outcome on a usable project. Nothing is compiled unless the request names an entity and
an operation. -/
def outcome (project : Project) (request : CompileRequest) : Outcome :=
  match target project request with
  | .error message => .fail message
  | .ok (entity, op) =>
    let options := options project entity request
    let compiled := Statement.compile op request.shape entity.columns entity.table options
    let events := [CompileEvent.ofOutcome op request.shape entity.table options compiled]
    match compiled with
    | .ok s => { output := report options.dialect s, events }
    | .error cause =>
      { output := "", failure := some (entity.name ++ ": " ++ cause.message), events }

def run (request : CompileRequest) (text : Except FileFault String) : Outcome :=
  match load request.config text with
  | .error message => .fail message
  | .ok project => outcome project request

end Compile

namespace Check

/-- A statement worth compiling, with the bulk loading to compile it under. -/
structure Item where
  operation : Operation
  shape : Shape
  bulkLoad : Bool
  deriving DecidableEq, Repr

/-- Every operation on a single entity, and where the entity refers to a parent the loading of
its collections, without and with bulk loading. -/
def items (e : Entity) : List Item :=
  Operation.all.map (⟨·, .single, false⟩) ++
    if e.hasForeignKey then [⟨.select, .collection, false⟩, ⟨.select, .collection, true⟩] else []

def options (project : Project) (dialect : Option DialectName) (e : Entity) (item : Item) :
    Options :=
  { project.options e dialect with bulkLoad := item.bulkLoad }

def compile (project : Project) (dialect : Option DialectName) (e : Entity) (item : Item) :
    Except Refusal Statement :=
  Statement.compile item.operation item.shape e.columns e.table (options project dialect e item)

structure Result where
  item : Item
  outcome : Except Refusal Statement

def results (project : Project) (dialect : Option DialectName) (e : Entity) : List Result :=
  (items e).map fun item => ⟨item, compile project dialect e item⟩

def Result.isFailure (r : Result) : Bool :=
  match r.outcome with
  | .ok _ => false
  | .error _ => true

def Item.label (item : Item) : String :=
  if item.bulkLoad then s!"{item.operation.name} ({item.shape.name}, bulk)"
  else s!"{item.operation.name} ({item.shape.name})"

/-- The text with blanks after it up to the number of characters. -/
def padRight (size : Nat) (s : String) : String :=
  s ++ String.ofList (List.replicate (size - s.length) ' ')

def Result.report (r : Result) : String :=
  let (mark, text) := match r.outcome with
    | .ok s => ("✓", s.sql)
    | .error cause => ("✗", cause.message)
  line ("  " ++ mark ++ " " ++ padRight 28 r.item.label ++ " " ++ text)

def entityReport (e : Entity) (results : List Result) : String :=
  line "" ++ line e.name ++ String.join (results.map Result.report)

def events (project : Project) (dialect : Option DialectName) (e : Entity) : List CompileEvent :=
  (results project dialect e).map fun r =>
    .ofOutcome r.item.operation r.item.shape e.table (options project dialect e r.item) r.outcome

/-- The report on a usable project: all statements, then whether all compiled. -/
def outcome (project : Project) (request : CheckRequest) : Outcome :=
  let all := project.entities.map fun e => (e, results project request.dialect e)
  let failures := (all.flatMap Prod.snd).countP Result.isFailure
  let output := line ("Checking " ++ request.config) ++
    String.join (all.map fun (e, results) => entityReport e results)
  let events := project.entities.flatMap (events project request.dialect)
  if failures = 0 then { output := output ++ line "" ++ line "All statements compiled.", events }
  else { output, failure := some s!"{failures} statement(s) failed to compile", events }

def run (request : CheckRequest) (text : Except FileFault String) : Outcome :=
  match load request.config text with
  | .error message => .fail message
  | .ok project => outcome project request

end Check

/-- The outcome of an invocation, given the text of the file that it reads. -/
def Invocation.run (invocation : Invocation) (text : Except FileFault String) : Outcome :=
  match invocation with
  | .help topic => { output := helpText topic }
  | .compile request => Compile.run request text
  | .check request => Check.run request text

/-- The outcome of the program in a directory of plain files. -/
def runIn (files : Directory) (arguments : List String) : Outcome :=
  match Invocation.parse arguments with
  | .error fault => .fail fault.message
  | .ok invocation => invocation.run (files.text (invocation.config?.getD ""))

end EntityCrud.CommandLine
