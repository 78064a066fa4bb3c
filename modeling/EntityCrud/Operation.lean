import EntityCrud.Text.Basic
/-! The five operations on an entity and the two shapes of what they stand for. -/
namespace EntityCrud

/-- What a statement does with the rows of an entity. -/
inductive Operation where
  | exists
  | delete
  | insert
  | select
  | update
  deriving DecidableEq, Repr, Inhabited

namespace Operation

/-- All operations, in the order of their codes. -/
def all : List Operation := [.exists, .delete, .insert, .select, .update]

/-- The name as diagnostics show it. -/
def name : Operation → String
  | .exists => "Exists"
  | .delete => "Delete"
  | .insert => "Insert"
  | .select => "Select"
  | .update => "Update"

/-- The name as documents write it. -/
def tag : Operation → String
  | .exists => "exists"
  | .delete => "delete"
  | .insert => "insert"
  | .select => "select"
  | .update => "update"

def code : Operation → Nat
  | .exists => 0
  | .delete => 1
  | .insert => 2
  | .select => 3
  | .update => 4

/-- The operation with this name, in any case of letters and with blanks around it. -/
def ofName? (s : String) : Option Operation :=
  all.find? fun op => Text.sameIgnoringCase op.name (Text.trim s)

/-- The operation with this code; codes outside the range stand for none. -/
def ofCode? (code : Int) : Option Operation := all.find? fun op => (op.code : Int) == code

def ofTag? (s : String) : Option Operation := all.find? fun op => op.tag == s

/-- Without a condition the statement would touch every row. An insert has none to touch. -/
def requiresPredicate : Operation → Bool
  | .insert => false
  | _ => true

/-- The statement lists data columns, so there has to be one. -/
def requiresPayload : Operation → Bool
  | .exists | .delete => false
  | .insert | .select | .update => true

end Operation

/-- Whether the caller stands for one record or for the child records of a parent. -/
inductive Shape where
  | single
  | collection
  deriving DecidableEq, Repr, Inhabited

namespace Shape

def name : Shape → String
  | .single => "single"
  | .collection => "collection"

/-- The name as documents write it. -/
def tag : Shape → String
  | .single => "single_entity"
  | .collection => "entity_collection"

def ofTag? (s : String) : Option Shape :=
  [Shape.single, .collection].find? fun shape => shape.tag == s

end Shape
end EntityCrud
