import EntityCrud.Column.DataType
import EntityCrud.Json.Writer
/-! Values bound to parameters, and their binary form on the wire to Postgres. A value is sent only for
the type that it belongs to: nothing is converted. -/
namespace EntityCrud

/-- A runtime value. `null` fits every type; a JSON null is a document like any other. -/
inductive Value where
  | null
  | bool (b : Bool)
  | int16 (n : Int16)
  | int32 (n : Int32)
  | int64 (n : Int64)
  | float32 (x : Number.Binary32)
  | float64 (x : Number.Binary64)
  | text (s : String)
  | bytes (octets : List UInt8)
  | json (document : Json)
  deriving Inhabited

namespace Value

/-- The value stands for nothing, be it as such or as a document that is null. -/
def isNull : Value → Bool
  | .null | .json .null => true
  | _ => false

/-- The data type that a value belongs to; null belongs to all. -/
def dataType? : Value → Option DataType
  | .null => none
  | .bool _ => some .bool
  | .int16 _ => some .int16
  | .int32 _ => some .int32
  | .int64 _ => some .int64
  | .float32 _ => some .float32
  | .float64 _ => some .float64
  | .text _ => some .text
  | .bytes _ => some .bytes
  | .json _ => some .json

/-- The low `count` octets of a number, the most significant first. -/
def bigEndian : Nat → Nat → List UInt8
  | 0, _ => []
  | count + 1, n => UInt8.ofNat (n / Nat.pow 256 count % 256) :: bigEndian count n

/-- The octets of a value: fixed-width numbers with the most significant octet first, text in
UTF-8, and documents as text behind the version octet 1. -/
def octets : Value → List UInt8
  | .null => []
  | .bool b => [if b then 1 else 0]
  | .int16 n => bigEndian 2 n.toUInt16.toNat
  | .int32 n => bigEndian 4 n.toUInt32.toNat
  | .int64 n => bigEndian 8 n.toUInt64.toNat
  | .float32 x => bigEndian 4 x.bits.toNat
  | .float64 x => bigEndian 8 x.bits.toNat
  | .text s => s.toUTF8.toList
  | .bytes octets => octets
  | .json document => 1 :: document.render.toUTF8.toList

/-- What is sent for a value where a type is expected. -/
inductive Wire where
  | null
  | octets (content : List UInt8)
  /-- The value does not belong to the expected type. -/
  | wrongType
  deriving DecidableEq, Repr

def wire (value : Value) (expected : DataType) : Wire :=
  match value.dataType? with
  | none => .null
  | some type => if type = expected then .octets value.octets else .wrongType

end Value
end EntityCrud
