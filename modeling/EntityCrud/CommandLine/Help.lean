import EntityCrud.CommandLine.Arguments
/-! The help texts. -/
namespace EntityCrud.CommandLine

def programHelp : String :=
"entsql - compile entity mappings into CRUD SQL

USAGE:
  entsql <COMMAND> [OPTIONS]

COMMANDS:
  compile       Print the SQL and parameters for one entity operation
  check         Compile every entity operation and report failures

Run `entsql <command> --help` for more.
"

def compileHelp : String :=
"USAGE:
  entsql compile --entity <NAME> --op <OPERATION> [OPTIONS]

OPTIONS:
  --config <FILE>       Config file path (default: entsql.toml)
  --entity <NAME>       Entity name from [[entities]]
  --op <OPERATION>      exists | delete | insert | select | update
  --shape <SHAPE>       single | collection (default: single)
  --bulk-load           Bulk-load collection selects
  --dialect <DIALECT>   Override data_source.dialect (sqlserver | postgres)
  -v, --verbose         Emit compile events to stderr
  -h, --help            Print help
"

def checkHelp : String :=
"USAGE:
  entsql check [OPTIONS]

OPTIONS:
  --config <FILE>       Config file path (default: entsql.toml)
  --dialect <DIALECT>   Override data_source.dialect (sqlserver | postgres)
  -v, --verbose         Emit compile events to stderr
  -h, --help            Print help
"

/-- The help on a command, or on the program. -/
def helpText : Option Command → String
  | none => programHelp
  | some .compile => compileHelp
  | some .check => checkHelp

end EntityCrud.CommandLine
