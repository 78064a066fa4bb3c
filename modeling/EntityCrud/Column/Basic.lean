import EntityCrud.Column.DataType
import EntityCrud.Text.Basic
/-! Columns of an entity: names, type and role tags, and what makes a column unusable. -/
namespace EntityCrud

/-- The resolved description of one mapped column. -/
structure Column where
  name : String
  type : DataType := .text
  /-- The name of the parameter that carries the column's value. -/
  parameter : String := "@" ++ name
  /-- The name under which a select lists the column. -/
  aliasName : Option String := none
  direction : Direction := .input
  nullable : Bool := false
  primaryKey : Bool := false
  foreignKey : Bool := false
  /-- The database fills the column in itself. -/
  generated : Bool := false
  deriving DecidableEq, Repr, Inhabited

/-- Why a column cannot take part in a statement. -/
inductive ColumnFault where
  | blankName
  | nulInName (name : String)
  | malformedParameter (name parameter : String)
  | unusableAlias (name : String)
  deriving DecidableEq, Repr

namespace ColumnFault

def message : ColumnFault → String
  | .blankName => "Column name cannot be empty"
  | .nulInName name => s!"Column '{name}' cannot contain NUL character"
  | .malformedParameter name parameter =>
    s!"Column '{name}' has invalid parameter name '{parameter}' (expected @[A-Za-z_][A-Za-z0-9_]*)"
  | .unusableAlias name => s!"Column '{name}' has an invalid alias"

end ColumnFault

def hasNul (s : String) : Bool := s.toList.contains '\x00'

/-- `@` and an ASCII identifier. Such a name is written into a statement as it stands. -/
def isParameterName (s : String) : Bool :=
  match s.toList with
  | '@' :: first :: rest => Text.isWordStart first && rest.all Text.isWordRest
  | _ => false

namespace Column

/-- The first thing wrong with a column: its name, then its parameter, then its alias. -/
def fault? (c : Column) : Option ColumnFault :=
  if Text.isBlank c.name then some .blankName
  else if hasNul c.name then some (.nulInName c.name)
  else if !isParameterName c.parameter then some (.malformedParameter c.name c.parameter)
  else if c.aliasName.any fun a => Text.isBlank a || hasNul a then some (.unusableAlias c.name)
  else none

/-- Two columns want the same column name or the same parameter name. -/
def Clashes (a b : Column) : Prop := a.name = b.name ∨ a.parameter = b.parameter

instance (a b : Column) : Decidable (a.Clashes b) := inferInstanceAs (Decidable (_ ∨ _))

end Column

/-- The role that selects columns for a part of a statement. -/
inductive Role where
  | primaryKey
  | foreignKey
  /-- Everything that the database does not fill in itself. -/
  | supplied
  | any
  deriving DecidableEq, Repr

namespace Role

def admits : Role → Column → Bool
  | .primaryKey, c => c.primaryKey
  | .foreignKey, c => c.foreignKey
  | .supplied, c => !c.generated
  | .any, _ => true

/-- The columns that play the role, in their order. -/
def filter (role : Role) (columns : List Column) : List Column := columns.filter role.admits

end Role
end EntityCrud
