import EntityCrud.Json.Basic
/-! Documents of settings, whatever format they are written in. A document is a tree of
plain values; floating-point numbers and dates are known only as such, since no setting
holds one. Decoders read a type out of a tree and give none where it does not fit. A number
without a value may stand only where nothing is read. -/
namespace EntityCrud

inductive Data where
  | null
  | bool (b : Bool)
  | integer (n : Int)
  | float
  /-- A number that is too large to have a value, or has letters among its digits. -/
  | unreadable
  | moment
  | text (s : String)
  | list (items : List Data)
  | table (fields : List (String × Data))
  deriving Inhabited

namespace Data

mutual

/-- Every number in the document has a value. -/
def isReadable : Data → Bool
  | .unreadable => false
  | .list items => areReadable items
  | .table fields => haveReadable fields
  | _ => true

def areReadable : List Data → Bool
  | [] => true
  | item :: rest => item.isReadable && areReadable rest

def haveReadable : List (String × Data) → Bool
  | [] => true
  | (_, content) :: rest => content.isReadable && haveReadable rest

end

/-- What a format lets stand for a record and for a choice without content. -/
structure Format where
  /-- A record may be written as the list of its fields in their order. -/
  recordFromList : Bool
  /-- A date reads as a record with none of the expected fields. -/
  recordFromMoment : Bool
  /-- The content that may follow the name of a choice in a table of one field. -/
  isUnit : Data → Bool

/-- Where records are tables only and a choice without content is followed by null. -/
def Format.strict : Format where
  recordFromList := false
  recordFromMoment := false
  isUnit
    | .null => true
    | _ => false

/-- Where records may be lists and a choice without content is followed by something empty. -/
def Format.lenient : Format where
  recordFromList := true
  recordFromMoment := true
  isUnit
    | .list items => items.isEmpty
    | .table fields => fields.isEmpty
    | _ => false

def text? : Data → Option String
  | .text s => some s
  | _ => none

def bool? : Data → Option Bool
  | .bool b => some b
  | _ => none

/-- A whole number from zero up to the bound, which is not reached. -/
def natBelow? (bound : Nat) : Data → Option Nat
  | .integer n => if 0 ≤ n ∧ n < bound then some n.toNat else none
  | _ => none

def uint32? (d : Data) : Option UInt32 := (d.natBelow? UInt32.size).map UInt32.ofNat

def uint64? (d : Data) : Option UInt64 := (d.natBelow? UInt64.size).map UInt64.ofNat

def orNull? {α : Type} (decode : Data → Option α) : Data → Option (Option α)
  | .null => some none
  | d => (decode d).map some

/-- A choice by its name, alone or as the one field of a table. -/
def choice? {α : Type} (format : Format) (ofTag? : String → Option α) : Data → Option α
  | .text s => ofTag? s
  | .table [(s, content)] => if format.isUnit content then ofTag? s else none
  | _ => none

def listOf? {α : Type} (decode : Data → Option α) : Data → Option (List α)
  | .list items => items.mapM decode
  | _ => none

structure Record where
  fields : List (String × Data)
  /-- The fields were written with their names, so that each can be left out. -/
  named : Bool

/-- A record with the given fields in their order. Fields with other names are read and then
passed over; elements of a list beyond the last field are not read. -/
def record? (format : Format) (names : List String) : Data → Option Record
  | .table fields =>
    if fields.all fun (name, content) => names.contains name || content.isReadable then
      some { fields, named := true }
    else none
  | .list items =>
    if format.recordFromList then some { fields := names.zip items, named := false } else none
  | .moment => if format.recordFromMoment then some { fields := [], named := true } else none
  | _ => none

namespace Record

/-- A field that a record must have. -/
def required {α : Type} (r : Record) (name : String) (decode : Data → Option α) : Option α :=
  (r.fields.lookup name).bind decode

/-- A field that has a default. -/
def withDefault {α : Type} (r : Record) (name : String) (decode : Data → Option α) (default : α) :
    Option α :=
  match r.fields.lookup name with
  | some d => decode d
  | none => some default

/-- A field that a record with named fields may leave out. -/
def optional {α : Type} (r : Record) (name : String) (decode : Data → Option α) :
    Option (Option α) :=
  match r.fields.lookup name with
  | some d => orNull? decode d
  | none => if r.named then some none else none

end Record
end Data

namespace Json

mutual

/-- The document that a JSON value is. -/
def toData : Json → Data
  | .null => .null
  | .bool b => .bool b
  | .integer n => .integer n
  | .float _ => .float
  | .text s => .text s
  | .list items => .list (itemsToData items)
  | .object members => .table (membersToData members)

def itemsToData : List Json → List Data
  | [] => []
  | item :: rest => item.toData :: itemsToData rest

def membersToData : List (String × Json) → List (String × Data)
  | [] => []
  | (name, value) :: rest => (name, value.toData) :: membersToData rest

end

end Json
end EntityCrud
