import EntityCrud.Sql.Dialect
/-! Arguments of the command line. They are cut from the left into occurrences of options,
the last occurrence of an option counts, and what comes first ends the scan: a request for
help or something malformed. -/
namespace EntityCrud.CommandLine
open Sql (DialectName)

/-- The file that holds the project unless another one is named. -/
def defaultConfig : String := "entsql.toml"

inductive Command where
  | compile
  | check
  deriving DecidableEq, Repr

inductive OptionName where
  | config
  | entity
  | operation
  | shape
  | dialect
  deriving DecidableEq, Repr

namespace OptionName

def all : List OptionName := [.config, .entity, .operation, .shape, .dialect]

def spelling : OptionName → String
  | .config => "--config"
  | .entity => "--entity"
  | .operation => "--op"
  | .shape => "--shape"
  | .dialect => "--dialect"

/-- Checking goes over all entities and statements, so only the file and the dialect are chosen. -/
def admittedBy : Command → OptionName → Bool
  | .compile, _ => true
  | .check, name => name == .config || name == .dialect

end OptionName

inductive UsageFault where
  | unknownCommand (argument : String)
  | unknownArgument (argument : String)
  | missingValue (option : OptionName)
  | unknownShape (value : String)
  | unknownDialect (cause : Refusal)
  | missingEntity
  | missingOperation
  deriving DecidableEq, Repr

namespace UsageFault

def message : UsageFault → String
  | .unknownCommand argument => "unknown command: " ++ argument
  | .unknownArgument argument => "unknown argument: " ++ argument
  | .missingValue option => option.spelling ++ " requires a value"
  | .unknownShape value => s!"invalid --shape: {value} (expected single or collection)"
  | .unknownDialect cause => "invalid --dialect: " ++ cause.message
  | .missingEntity => "missing --entity"
  | .missingOperation => "missing --op"

end UsageFault

/-- One well-formed occurrence of an option, help aside. -/
inductive Occurrence where
  | config (file : String)
  | entity (name : String)
  | operation (name : String)
  | shape (shape : Shape)
  | dialect (name : DialectName)
  | bulkLoad
  | verbose
  deriving DecidableEq, Repr

namespace Occurrence

def ofValue (option : OptionName) (value : String) : Except UsageFault Occurrence :=
  match option with
  | .config => .ok (.config value)
  | .entity => .ok (.entity value)
  | .operation => .ok (.operation value)
  | .shape =>
    if value = Shape.single.name then .ok (.shape .single)
    else if value = Shape.collection.name then .ok (.shape .collection)
    else .error (.unknownShape value)
  | .dialect =>
    match DialectName.parse value with
    | .ok name => .ok (.dialect name)
    | .error cause => .error (.unknownDialect cause)

def ofFlag? (command : Command) (argument : String) : Option Occurrence :=
  if argument = "-v" ∨ argument = "--verbose" then some .verbose
  else if argument = "--bulk-load" ∧ command = .compile then some .bulkLoad
  else none

end Occurrence

/-- The text without the copies of `lead` at its front; an empty lead takes nothing away. -/
def dropCopies (lead : List Char) (text : List Char) : List Char :=
  if _front : lead ≠ [] ∧ text.take lead.length = lead then dropCopies lead (text.drop lead.length)
  else text
termination_by text.length
decreasing_by
  have nonempty := List.length_pos_iff.mpr _front.1
  have fits := congrArg List.length _front.2
  simp only [List.length_take] at fits
  simp only [List.length_drop]
  omega

/-- The value in an argument `option=value`. Copies of `option=` at the front of the value are
passed over as well. -/
def attachedValue? (option : OptionName) (argument : String) : Option String :=
  let lead := option.spelling.toList ++ ['=']
  if lead.isPrefixOf argument.toList then some (String.ofList (dropCopies lead argument.toList))
  else none

/-- What one argument is to a command. -/
inductive Reading where
  | help
  | flag (occurrence : Occurrence)
  | attached (option : OptionName) (value : String)
  /-- The value is the next argument, whatever it looks like. -/
  | detached (option : OptionName)
  | unknown

def read (command : Command) (argument : String) : Reading :=
  let options := OptionName.all.filter (OptionName.admittedBy command)
  if argument = "-h" ∨ argument = "--help" then .help
  else match options.find? fun option => option.spelling == argument with
    | some option => .detached option
    | none =>
      match options.findSome? fun option => (attachedValue? option argument).map (option, ·) with
      | some (option, value) => .attached option value
      | none =>
        match Occurrence.ofFlag? command argument with
        | some occurrence => .flag occurrence
        | none => .unknown

/-- What a scan of the arguments comes to. -/
inductive Scan where
  | help
  | malformed (fault : UsageFault)
  | complete (occurrences : List Occurrence)
  deriving DecidableEq, Repr

/-- A scan whose first occurrence is this one. -/
def Scan.after (first : Except UsageFault Occurrence) (rest : Scan) : Scan :=
  match first, rest with
  | .error fault, _ => .malformed fault
  | .ok occurrence, .complete occurrences => .complete (occurrence :: occurrences)
  | .ok _, other => other

/-- Cuts the arguments into occurrences from the left. -/
def scan (command : Command) : List String → Scan
  | [] => .complete []
  | argument :: rest =>
    match read command argument with
    | .help => .help
    | .flag occurrence => .after (.ok occurrence) (scan command rest)
    | .attached option value => .after (Occurrence.ofValue option value) (scan command rest)
    | .detached option =>
      match rest with
      | [] => .malformed (.missingValue option)
      | value :: rest => .after (Occurrence.ofValue option value) (scan command rest)
    | .unknown => .malformed (.unknownArgument argument)

/-- The values of the options, each as far as it has occurred. -/
structure Chosen where
  config : String := defaultConfig
  entity : Option String := none
  operation : Option String := none
  shape : Shape := .single
  dialect : Option DialectName := none
  bulkLoad : Bool := false
  verbose : Bool := false
  deriving DecidableEq, Repr

namespace Chosen

def put (c : Chosen) : Occurrence → Chosen
  | .config file => { c with config := file }
  | .entity name => { c with entity := some name }
  | .operation name => { c with operation := some name }
  | .shape shape => { c with shape }
  | .dialect name => { c with dialect := some name }
  | .bulkLoad => { c with bulkLoad := true }
  | .verbose => { c with verbose := true }

def ofOccurrences (occurrences : List Occurrence) : Chosen := occurrences.foldl put {}

end Chosen

/-- The arguments of the command that compiles one statement. -/
structure CompileRequest where
  config : String
  entity : String
  /-- As written; it is looked up for the entity's source type. -/
  operation : String
  shape : Shape
  bulkLoad : Bool
  dialect : Option DialectName
  verbose : Bool
  deriving DecidableEq, Repr

/-- The arguments of the command that compiles all statements of a project. -/
structure CheckRequest where
  config : String
  dialect : Option DialectName
  verbose : Bool
  deriving DecidableEq, Repr

/-- What the program is asked to do; help is about a command or about the program. -/
inductive Invocation where
  | help (topic : Option Command)
  | compile (request : CompileRequest)
  | check (request : CheckRequest)
  deriving DecidableEq, Repr

namespace Invocation

/-- The invocation of a command with the chosen values. An entity is missed before an operation. -/
def ofChosen (c : Chosen) : Command → Except UsageFault Invocation
  | .compile =>
    match c.entity, c.operation with
    | none, _ => .error .missingEntity
    | some _, none => .error .missingOperation
    | some entity, some operation =>
      .ok (.compile {
        config := c.config, entity, operation, shape := c.shape, bulkLoad := c.bulkLoad,
        dialect := c.dialect, verbose := c.verbose })
  | .check => .ok (.check { config := c.config, dialect := c.dialect, verbose := c.verbose })

def ofScan (command : Command) : Scan → Except UsageFault Invocation
  | .help => .ok (.help (some command))
  | .malformed fault => .error fault
  | .complete occurrences => ofChosen (.ofOccurrences occurrences) command

/-- Reads the arguments after the program's name. -/
def parse : List String → Except UsageFault Invocation
  | [] => .ok (.help none)
  | first :: rest =>
    if first = "-h" ∨ first = "--help" then .ok (.help none)
    else if first = "compile" then ofScan .compile (scan .compile rest)
    else if first = "check" then ofScan .check (scan .check rest)
    else .error (.unknownCommand first)

def config? : Invocation → Option String
  | .help _ => none
  | .compile request => some request.config
  | .check request => some request.config

/-- The events of the compilations are wanted as well. -/
def verbose : Invocation → Bool
  | .help _ => false
  | .compile request => request.verbose
  | .check request => request.verbose

end Invocation
end EntityCrud.CommandLine
