import EntityCrud.Column.Basic
import EntityCrud.Operation
/-! Why no statement is produced. A compilation either yields a whole statement or one of
these causes; nothing is ever produced in part. -/
namespace EntityCrud

inductive ArgumentFault where
  | blankTableName
  | nulInTableName
  | noColumns (sourceType : String)
  | column (fault : ColumnFault)
  | zeroReadLimit
  | unknownDialect (name : String)
  deriving DecidableEq, Repr

inductive Refusal where
  /-- No operation has this name or code. -/
  | invalidOperation (value sourceType : String)
  /-- No column locates the rows of a statement that would otherwise touch all of them. -/
  | missingPredicate (operation : Operation) (sourceType : String)
  /-- No column carries the data of the statement. -/
  | missingPayload (operation : Operation) (sourceType : String)
  | invalidArgument (fault : ArgumentFault)
  deriving DecidableEq, Repr

namespace ArgumentFault

def message : ArgumentFault → String
  | .blankTableName => "Table name cannot be empty"
  | .nulInTableName => "Table name cannot contain NUL character"
  | .noColumns sourceType => s!"No column metadata supplied for '{sourceType}'"
  | .column fault => fault.message
  | .zeroReadLimit => "Read limit must be greater than zero when enabled"
  | .unknownDialect name => s!"Unknown dialect '{name}'"

end ArgumentFault

namespace Refusal

def message : Refusal → String
  | .invalidOperation value sourceType =>
    s!"Invalid operation '{value}' requested for entity type '{sourceType}'"
  | .missingPredicate operation sourceType =>
    s!"{operation.name} on '{sourceType}' has no predicate columns; " ++
      "refusing to emit an unconditional statement"
  | .missingPayload operation sourceType =>
    s!"{operation.name} on '{sourceType}' has no payload columns"
  | .invalidArgument fault => "Invalid argument: " ++ fault.message

end Refusal

namespace Operation

/-- The operation that an entity's mapping names. -/
def parse (value sourceType : String) : Except Refusal Operation :=
  match ofName? value with
  | some op => .ok op
  | none => .error (.invalidOperation value sourceType)

/-- The operation that an entity's mapping gives by its code. -/
def ofCode (code : Int) (sourceType : String) : Except Refusal Operation :=
  match ofCode? code with
  | some op => .ok op
  | none => .error (.invalidOperation (toString code) sourceType)

end Operation
end EntityCrud
