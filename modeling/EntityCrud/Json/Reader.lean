import EntityCrud.Json.Basic
/-! Reading JSON text. Every reader takes characters off the front of the text and returns
what is left; the readers of values are bounded by the number of characters. -/
namespace EntityCrud.Json.Reader

def isSpace (c : Char) : Bool := c == ' ' || c == '\t' || c == '\n' || c == '\r'

def skipSpace (cs : List Char) : List Char := cs.dropWhile isSpace

def hexDigit? (c : Char) : Option Nat :=
  if '0' ≤ c ∧ c ≤ '9' then some (c.toNat - '0'.toNat)
  else if 'a' ≤ c ∧ c ≤ 'f' then some (c.toNat - 'a'.toNat + 10)
  else if 'A' ≤ c ∧ c ≤ 'F' then some (c.toNat - 'A'.toNat + 10)
  else none

/-- The 16-bit unit written by four hexadecimal digits. -/
def unit? (a b c d : Char) : Option Nat := do
  return (((← hexDigit? a) * 16 + (← hexDigit? b)) * 16 + (← hexDigit? c)) * 16 + (← hexDigit? d)

def isHighSurrogate (unit : Nat) : Bool := decide (0xD800 ≤ unit) && decide (unit < 0xDC00)

def isLowSurrogate (unit : Nat) : Bool := decide (0xDC00 ≤ unit) && decide (unit < 0xE000)

/-- The character that a one-letter escape stands for. -/
def escaped? : Char → Option Char
  | '"' => some '"'
  | '\\' => some '\\'
  | '/' => some '/'
  | 'b' => some '\x08'
  | 'f' => some '\x0c'
  | 'n' => some '\n'
  | 'r' => some '\r'
  | 't' => some '\t'
  | _ => none

/-- The characters of a string up to its closing quotation mark. A surrogate is read only as
half of a pair, and control characters stand in a string only escaped. -/
def quoted : List Char → Option (List Char × List Char)
  | [] => none
  | '"' :: rest => some ([], rest)
  | '\\' :: 'u' :: a :: b :: c :: d :: rest => do
    let unit ← unit? a b c d
    if isHighSurrogate unit then
      match rest with
      | '\\' :: 'u' :: e :: f :: g :: h :: rest' =>
        let low ← unit? e f g h
        if isLowSurrogate low then
          let (cs, after) ← quoted rest'
          some (Char.ofNat (0x10000 + (unit - 0xD800) * 0x400 + (low - 0xDC00)) :: cs, after)
        else none
      | _ => none
    else if isLowSurrogate unit then none
    else
      let (cs, after) ← quoted rest
      some (Char.ofNat unit :: cs, after)
  | '\\' :: c :: rest => do
    let c ← escaped? c
    let (cs, after) ← quoted rest
    some (c :: cs, after)
  | c :: rest =>
    if c.toNat < 0x20 ∨ c = '\\' then none
    else do
      let (cs, after) ← quoted rest
      some (c :: cs, after)

def decimal (digits : List Char) : Nat :=
  digits.foldl (fun n c => n * 10 + (c.toNat - '0'.toNat)) 0

/-- The digits at the front of the text, at least one. -/
def digits (cs : List Char) : Option (List Char × List Char) :=
  match cs.takeWhile Char.isDigit with
  | [] => none
  | found => some (found, cs.dropWhile Char.isDigit)

/-- The whole part of a number: no zero stands before another digit. -/
def whole (cs : List Char) : Option (List Char × List Char) := do
  let (found, rest) ← digits cs
  if found.head? = some '0' ∧ 1 < found.length then none else some (found, rest)

/-- The digits after a decimal point, if there is one. -/
def fraction : List Char → Option (Option (List Char) × List Char)
  | '.' :: rest => do
    let (found, rest) ← digits rest
    some (some found, rest)
  | rest => some (none, rest)

/-- The power of ten after the letter `e`, if there is one. -/
def power (cs : List Char) : Option (Option Int × List Char) :=
  match cs with
  | 'e' :: rest | 'E' :: rest => do
    let (negative, rest) := match rest with
      | '-' :: rest => (true, rest)
      | '+' :: rest => (false, rest)
      | rest => (false, rest)
    let (found, rest) ← digits rest
    some (some (if negative then -(decimal found : Int) else decimal found), rest)
  | rest => some (none, rest)

/-- A number; one whose magnitude no 64-bit floating-point number reaches is refused. -/
def number (negative : Bool) (cs : List Char) : Option (Json × List Char) := do
  let (main, rest) ← whole cs
  let (part, rest) ← fraction rest
  let (exponent, rest) ← power rest
  match part, exponent with
  | none, none =>
    match ofWhole negative (decimal main) with
    | .float x => if x.isFinite then some (.float x, rest) else none
    | value => some (value, rest)
  | _, _ =>
    let part := part.getD []
    let x := Number.Binary64.ofDecimal negative (decimal (main ++ part))
      (exponent.getD 0 - part.length)
    if x.isFinite then some (.float x, rest) else none

mutual

/-- One value, blanks before it skipped. -/
def value : Nat → List Char → Option (Json × List Char)
  | 0, _ => none
  | fuel + 1, cs =>
    match skipSpace cs with
    | 'n' :: 'u' :: 'l' :: 'l' :: rest => some (.null, rest)
    | 't' :: 'r' :: 'u' :: 'e' :: rest => some (.bool true, rest)
    | 'f' :: 'a' :: 'l' :: 's' :: 'e' :: rest => some (.bool false, rest)
    | '"' :: rest => do
      let (s, rest) ← quoted rest
      some (.text (String.ofList s), rest)
    | '[' :: rest =>
      match skipSpace rest with
      | ']' :: rest => some (.list [], rest)
      | rest => do
        let (items, rest) ← elements fuel rest
        some (.list items, rest)
    | '\x7b' :: rest =>
      match skipSpace rest with
      | '\x7d' :: rest => some (.object [], rest)
      | rest => do
        let (found, rest) ← members fuel rest
        some (ofMembers found, rest)
    | '-' :: rest => number true rest
    | rest => number false rest

/-- The elements of a list up to its closing bracket. -/
def elements : Nat → List Char → Option (List Json × List Char)
  | 0, _ => none
  | fuel + 1, cs => do
    let (head, rest) ← value fuel cs
    match skipSpace rest with
    | ',' :: rest =>
      let (tail, rest) ← elements fuel rest
      some (head :: tail, rest)
    | ']' :: rest => some ([head], rest)
    | _ => none

/-- The members of an object up to its closing brace. -/
def members : Nat → List Char → Option (List (String × Json) × List Char)
  | 0, _ => none
  | fuel + 1, cs =>
    match skipSpace cs with
    | '"' :: rest => do
      let (name, rest) ← quoted rest
      match skipSpace rest with
      | ':' :: rest =>
        let (held, rest) ← value fuel rest
        match skipSpace rest with
        | ',' :: rest =>
          let (tail, rest) ← members fuel rest
          some ((String.ofList name, held) :: tail, rest)
        | '\x7d' :: rest => some ([(String.ofList name, held)], rest)
        | _ => none
      | _ => none
    | _ => none

end

end Reader

/-- The value a text writes, with nothing but blanks around it. -/
def parse? (s : String) : Option Json :=
  let cs := s.toList
  match Reader.value (cs.length + 1) cs with
  | some (value, rest) => if (Reader.skipSpace rest).isEmpty then some value else none
  | none => none

end EntityCrud.Json
