import EntityCrud.Json.Basic
import EntityCrud.Number.Shortest
/-! Writing JSON text. The text is compact: no blanks between tokens, members in the order
of their names, and only the escapes that a string needs. -/
namespace EntityCrud.Json

/-- The lower-case hexadecimal digit of a number below sixteen. -/
def hexDigit (n : Nat) : Char := if n < 10 then Char.ofNat (48 + n) else Char.ofNat (87 + n)

/-- A character as it stands in a string. -/
def escape (c : Char) : List Char :=
  if c = '"' then ['\\', '"']
  else if c = '\\' then ['\\', '\\']
  else if c = '\x08' then ['\\', 'b']
  else if c = '\x0c' then ['\\', 'f']
  else if c = '\n' then ['\\', 'n']
  else if c = '\r' then ['\\', 'r']
  else if c = '\t' then ['\\', 't']
  else if c.toNat < 0x20 then
    ['\\', 'u', '0', '0', hexDigit (c.toNat / 16), hexDigit (c.toNat % 16)]
  else [c]

def quote (s : String) : String := String.ofList ('"' :: s.toList.flatMap escape ++ ['"'])

def zeros (n : Nat) : List Char := List.replicate n '0'

/-- A power of ten with its sign, written out for a positive one too. -/
def powerText (n : Int) : List Char :=
  'e' :: (if n < 0 then '-' else '+') :: Nat.toDigits 10 n.natAbs

/-- A floating-point number by its shortest decimal. It is positional with at least one digit
on each side of the point where the point falls inside or up to sixteen places after the first
digit, or less than five zeros before it; otherwise it has a power of ten. -/
def floatText (x : Number.Binary64) : String :=
  let d := x.shortest
  let digits := Nat.toDigits 10 d.digits
  let point : Int := digits.length + d.exponent
  let magnitude : List Char :=
    if 0 ≤ d.exponent ∧ point ≤ 16 then digits ++ zeros d.exponent.toNat ++ ['.', '0']
    else if 0 < point ∧ point ≤ 16 then
      digits.take point.toNat ++ '.' :: digits.drop point.toNat
    else if -5 < point ∧ point ≤ 0 then '0' :: '.' :: zeros (-point).toNat ++ digits
    else
      let power := powerText (point - 1)
      match digits with
      | [digit] => digit :: power
      | first :: rest => first :: '.' :: rest ++ power
      | [] => power
  String.ofList (if x.isNegative then '-' :: magnitude else magnitude)

def commaSeparated : List String → String
  | [] => ""
  | [part] => part
  | part :: next :: more => part ++ "," ++ commaSeparated (next :: more)

mutual

def render : Json → String
  | .null => "null"
  | .bool true => "true"
  | .bool false => "false"
  | .integer n => toString n
  | .float x => floatText x
  | .text s => quote s
  | .list items => "[" ++ commaSeparated (renderItems items) ++ "]"
  | .object members => "\x7b" ++ commaSeparated (renderMembers members) ++ "\x7d"

def renderItems : List Json → List String
  | [] => []
  | item :: rest => render item :: renderItems rest

def renderMembers : List (String × Json) → List String
  | [] => []
  | (name, value) :: rest => (quote name ++ ":" ++ render value) :: renderMembers rest

end

end EntityCrud.Json
