import EntityCrud.Refusal
/-! SQL dialects. Everything in which databases differ is a field of a dialect: how names
are delimited, how parameters are referred to, and how lock hints and row limits are written.
A delimited name stands between an opening and a closing delimiter, a closing delimiter inside it is
written twice, and a dotted name is delimited part by part. -/
namespace EntityCrud.Sql

/-- The two delimiters of an identifier, which may be the same character. -/
structure Delimiters where
  opening : Char
  closing : Char
  deriving DecidableEq, Repr

namespace Delimiters

def doubled (d : Delimiters) (part : List Char) : List Char :=
  part.flatMap fun c => if c = d.closing then [c, c] else [c]

def quote (d : Delimiters) (part : List Char) : List Char :=
  d.opening :: d.doubled part ++ [d.closing]

end Delimiters

/-- A name with each part between its dots passed through `quote`. -/
def dotted (quote : String → String) (name : String) : String :=
  ".".intercalate ((name.toList.splitOn '.').map fun part => quote (String.ofList part))

/-- How one database writes what others write differently. -/
structure Dialect where
  /-- The short name used in logs. -/
  name : String
  quoted : String → String
  /-- The reference to a parameter, given its name and its place, counted from one, in the
  parameter list. -/
  placeholder : String → Nat → String
  /-- The hint after a table that reads without locks, where the database has one. -/
  dirtyReadHint : Option String := none
  /-- The row limit right after `SELECT`. -/
  limitHead : UInt32 → String := fun _ => ""
  /-- The row limit at the end of the statement. -/
  limitTail : UInt32 → String := fun _ => ""

namespace Dialect

/-- An identifier as a statement shows it: as it stands, or delimited part by part. -/
def identifier (d : Dialect) (encapsulate : Bool) (name : String) : String :=
  if encapsulate then dotted d.quoted name else name

/-- Square brackets, named parameters, `TOP` and a lock hint. -/
def sqlServer : Dialect where
  name := "sqlserver"
  quoted part := String.ofList (Delimiters.quote ⟨'[', ']'⟩ part.toList)
  placeholder parameter _ := parameter
  dirtyReadHint := some "WITH (NOLOCK)"
  limitHead limit := s!"TOP ({limit.toNat}) "

/-- Double quotes, numbered parameters and `LIMIT`. Uncommitted rows are never shown, so there
is no lock hint. -/
def postgres : Dialect where
  name := "postgres"
  quoted part := String.ofList (Delimiters.quote ⟨'"', '"'⟩ part.toList)
  placeholder _ place := s!"${place}"
  limitTail limit := s!" LIMIT {limit.toNat}"

end Dialect

/-- The dialects that settings can choose. -/
inductive DialectName where
  | sqlServer
  | postgres
  deriving DecidableEq, Repr, Inhabited

namespace DialectName

def dialect : DialectName → Dialect
  | .sqlServer => .sqlServer
  | .postgres => .postgres

/-- The spellings that documents use, exactly. -/
def spellings : List (String × DialectName) :=
  [("sql_server", .sqlServer), ("sqlserver", .sqlServer), ("mssql", .sqlServer),
    ("postgres", .postgres), ("postgresql", .postgres), ("pg", .postgres)]

def ofTag? (s : String) : Option DialectName := spellings.lookup s

/-- The dialect that a command line names, in any case of letters and with blanks around it. -/
def parse (s : String) : Except Refusal DialectName :=
  let spelling := Text.lowerAscii (Text.trim s)
  match ofTag? spelling with
  | some name => .ok name
  | none => .error (.invalidArgument (.unknownDialect spelling))

end DialectName
end EntityCrud.Sql
