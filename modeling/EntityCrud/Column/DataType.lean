/-! The data types of columns and the directions of parameters. -/
namespace EntityCrud

/-- The type that a parameter is declared with. -/
inductive DataType where
  | bool
  | int16
  | int32
  | int64
  | float32
  | float64
  | decimal
  | text
  | bytes
  | uuid
  | date
  | time
  | timestamp
  | timestampTz
  | json
  deriving DecidableEq, Repr

namespace DataType

/-- A column without a declared type holds text. -/
instance : Inhabited DataType := ⟨.text⟩

def all : List DataType :=
  [.bool, .int16, .int32, .int64, .float32, .float64, .decimal, .text, .bytes, .uuid, .date, .time,
    .timestamp, .timestampTz, .json]

/-- The name as a parameter list shows it. -/
def name : DataType → String
  | .bool => "Bool"
  | .int16 => "Int16"
  | .int32 => "Int32"
  | .int64 => "Int64"
  | .float32 => "Float32"
  | .float64 => "Float64"
  | .decimal => "Decimal"
  | .text => "Text"
  | .bytes => "Bytes"
  | .uuid => "Uuid"
  | .date => "Date"
  | .time => "Time"
  | .timestamp => "Timestamp"
  | .timestampTz => "TimestampTz"
  | .json => "Json"

/-- The name as documents write it. -/
def tag : DataType → String
  | .bool => "bool"
  | .int16 => "int16"
  | .int32 => "int32"
  | .int64 => "int64"
  | .float32 => "float32"
  | .float64 => "float64"
  | .decimal => "decimal"
  | .text => "text"
  | .bytes => "bytes"
  | .uuid => "uuid"
  | .date => "date"
  | .time => "time"
  | .timestamp => "timestamp"
  | .timestampTz => "timestamp_tz"
  | .json => "json"

/-- The name of the Postgres type that the parameter binds as. -/
def postgresName : DataType → String
  | .bool => "bool"
  | .int16 => "int2"
  | .int32 => "int4"
  | .int64 => "int8"
  | .float32 => "float4"
  | .float64 => "float8"
  | .decimal => "numeric"
  | .text => "text"
  | .bytes => "bytea"
  | .uuid => "uuid"
  | .date => "date"
  | .time => "time"
  | .timestamp => "timestamp"
  | .timestampTz => "timestamptz"
  | .json => "jsonb"

def ofTag? (s : String) : Option DataType := all.find? fun type => type.tag == s

end DataType

/-- Which way a parameter carries its value. -/
inductive Direction where
  | input
  | output
  | inputOutput
  | returnValue
  deriving DecidableEq, Repr, Inhabited

namespace Direction

def all : List Direction := [.input, .output, .inputOutput, .returnValue]

/-- The name as a parameter list shows it. -/
def name : Direction → String
  | .input => "Input"
  | .output => "Output"
  | .inputOutput => "InputOutput"
  | .returnValue => "ReturnValue"

/-- The name as documents write it. -/
def tag : Direction → String
  | .input => "input"
  | .output => "output"
  | .inputOutput => "input_output"
  | .returnValue => "return_value"

def ofTag? (s : String) : Option Direction := all.find? fun direction => direction.tag == s

end Direction
end EntityCrud
