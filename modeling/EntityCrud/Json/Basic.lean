import EntityCrud.Number.Binary
/-! JSON values. Whole numbers of 64 bits and floating-point numbers are told apart, and
an object keeps its members sorted by name with one value per name. -/
namespace EntityCrud

inductive Json where
  | null
  | bool (b : Bool)
  | integer (n : Int)
  | float (x : Number.Binary64)
  | text (s : String)
  | list (items : List Json)
  | object (members : List (String × Json))
  deriving Inhabited

namespace Json

/-- Puts a member at its place in the order of names; the value of an equal name is replaced. -/
def insertMember (name : String) (value : Json) : List (String × Json) → List (String × Json)
  | [] => [(name, value)]
  | (other, held) :: rest =>
    if name = other then (name, value) :: rest
    else if name < other then (name, value) :: (other, held) :: rest
    else (other, held) :: insertMember name value rest

/-- The object with these members; of several members of one name the last counts. -/
def ofMembers (members : List (String × Json)) : Json :=
  .object (members.foldl (fun sorted (name, value) => insertMember name value sorted) [])

/-- The number a decimal text without fraction and exponent stands for: an integer where it
fits 64 bits, signed or unsigned, and otherwise, as for minus zero, a floating-point number. -/
def ofWhole (negative : Bool) (magnitude : Nat) : Json :=
  if negative then
    if magnitude = 0 ∨ Nat.pow 2 63 < magnitude then .float (.ofDecimal true magnitude 0)
    else .integer (-magnitude)
  else if magnitude < UInt64.size then .integer magnitude
  else .float (.ofDecimal false magnitude 0)

def member? (name : String) : Json → Option Json
  | .object members => members.lookup name
  | _ => none

end Json
end EntityCrud
