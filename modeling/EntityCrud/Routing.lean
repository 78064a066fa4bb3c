import EntityCrud.Column.Owners
import EntityCrud.Settings
/-! Routing: which columns locate rows and which carry data. The columns are first reduced
to those that own their names. Roles then pick the two parts in turn, and a column of the
predicate blocks the payload's candidates that share a name with it. -/
namespace EntityCrud

/-- The columns of the condition and the columns of the data of one statement. -/
structure Routing where
  predicate : Owners := .empty
  payload : Owners := .empty
  deriving DecidableEq, Repr, Inhabited

namespace Routing

/-- The roles that locate rows: nothing for an insert, the parent's key for the children of a
collection, the primary key otherwise. -/
def predicateRoles : Operation → Shape → List Role
  | .insert, _ => []
  | .select, .collection => [.foreignKey]
  | _, _ => [.primaryKey]

/-- The roles that carry data. Bulk loading lists the primary keys of the children before
their other columns. -/
def payloadRoles : Operation → Shape → Bool → List Role
  | .exists, _, _ | .delete, _, _ => []
  | .insert, _, _ => [.supplied]
  | .update, _, _ | .select, .single, _ => [.any]
  | .select, .collection, true => [.primaryKey, .any]
  | .select, .collection, false => [.primaryKey]

def candidates (roles : List Role) (columns : List Column) : List Column :=
  roles.flatMap fun role => role.filter columns

def ofColumns (op : Operation) (shape : Shape) (columns : List Column) (bulkLoad : Bool) :
    Routing :=
  let owners := (Owners.ofColumns columns).columns
  let predicate := Owners.ofColumns (candidates (predicateRoles op shape) owners)
  let free := (candidates (payloadRoles op shape bulkLoad) owners).filter fun c =>
    !predicate.blocks c
  { predicate, payload := Owners.ofColumns free }

end Routing
end EntityCrud
