import EntityCrud.Data
import EntityCrud.Toml.Quoted
/-! Words of a TOML document that are not quoted: truth values, numbers, dates and times. -/
namespace EntityCrud.Toml.Scalar

def valueIn (base : Nat) (digits : List Char) : Nat :=
  digits.foldl (fun n c => n * base + (Json.Reader.hexDigit? c).getD 0) 0

/-- A number as such, if it has at most 128 bits, the sign included for a negative one. -/
def bounded (n : Int) : Data :=
  if -Nat.pow 2 127 ≤ n ∧ n < Nat.pow 2 128 then .integer n else .unreadable

def isHex (c : Char) : Bool := (Json.Reader.hexDigit? c).isSome

def isOctal (c : Char) : Bool := decide ('0' ≤ c) && decide (c ≤ '7')

def isBinary (c : Char) : Bool := c == '0' || c == '1'

def isExponentLetter (c : Char) : Bool := c == 'e' || c == 'E'

/-- The sign of a number and the word after it. -/
def sign : List Char → Bool × List Char
  | '-' :: rest => (true, rest)
  | '+' :: rest => (false, rest)
  | rest => (false, rest)

/-- The word without its underscores, if each of them stands between two digits. -/
def joined? (isDigit : Char → Bool) : List Char → Option (List Char)
  | [] => some []
  | '_' :: _ => none
  | c :: '_' :: d :: rest =>
    if isDigit c && isDigit d then (joined? isDigit (d :: rest)).map (c :: ·) else none
  | c :: rest => (joined? isDigit rest).map (c :: ·)

/-- A zero stands before another digit. -/
def hasLeadingZero (digits : List Char) : Bool :=
  digits.head? == some '0' && decide (1 < digits.length)

/-- A whole number in a base other than ten, after the mark of the base. Without a digit it has
no value. -/
def based? (base : Nat) (isDigit : Char → Bool) (cs : List Char) : Option Data := do
  let digits ← joined? isDigit cs
  if !digits.all isDigit then none
  else if digits.isEmpty then some .unreadable
  else some (bounded (valueIn base digits))

/-- Digits, alone or with an underscore after them and nothing that sets off a fraction, an
exponent or another word. -/
def isWhole (cs : List Char) : Bool :=
  (cs.head?.any Char.isDigit) &&
    (match cs.dropWhile Char.isDigit with
      | [] => true
      | '_' :: rest => rest.all fun c => !(c == '.' || c == ' ' || isExponentLetter c)
      | _ => false)

/-- A decimal whole number after its sign. The underscores are held to the digits of any base,
so that other characters can stand behind one; then the number has no value. -/
def decimal? (negative : Bool) (cs : List Char) : Option Data := do
  let digits ← joined? isHex cs
  if !isWhole cs || hasLeadingZero digits then none
  else if digits.all Char.isDigit then
    let n := valueIn 10 digits
    some (bounded (if negative then -(n : Int) else n))
  else some .unreadable

/-- A whole number: decimal with an optional sign, or in one of three other bases without. -/
def integer? : List Char → Option Data
  | '0' :: 'x' :: rest => based? 16 isHex rest
  | '0' :: 'o' :: rest => based? 8 isOctal rest
  | '0' :: 'b' :: rest => based? 2 isBinary rest
  | cs =>
    let (negative, rest) := sign cs
    decimal? negative rest

/-- The number that digits alone write, if there are any. -/
def digits? (cs : List Char) : Option Nat :=
  if cs.isEmpty || !cs.all Char.isDigit then none else some (valueIn 10 cs)

/-- The exponent after its letter. -/
def exponent? (cs : List Char) : Option Int := do
  let (negative, rest) := sign cs
  let n ← digits? rest
  return if negative then -(n : Int) else n

/-- A floating-point number: a whole part and a fraction or an exponent or both, or a word for
infinity or for no number. A number beyond the greatest finite one has no value. -/
def float? (cs : List Char) : Option Data := do
  let (_, rest) := sign cs
  if rest = ['i', 'n', 'f'] ∨ rest = ['n', 'a', 'n'] then return .float
  let rest ← joined? Char.isDigit rest
  let significand := rest.takeWhile fun c => !isExponentLetter c
  let exponent ← match rest.dropWhile fun c => !isExponentLetter c with
    | [] => some 0
    | _ :: power => exponent? power
  let whole := significand.takeWhile (· != '.')
  let fraction := (significand.dropWhile (· != '.')).drop 1
  if (digits? whole).isNone || hasLeadingZero whole || rest.all Char.isDigit then none
  else if significand.contains '.' && (digits? fraction).isNone then none
  else
    let value := Number.Binary64.ofDecimal false (valueIn 10 (whole ++ fraction))
      (exponent - fraction.length)
    some (if value.isFinite then .float else .unreadable)

/-- The number that exactly two digits write, if it is in the range. -/
def twoDigits? (low high : Nat) (a b : Char) : Option Nat := do
  if a.isDigit && b.isDigit then
    let n := valueIn 10 [a, b]
    if low ≤ n ∧ n ≤ high then some n else none
  else none

def isLeap (year : Nat) : Bool := year % 4 == 0 && (year % 100 != 0 || year % 400 == 0)

def daysIn (year month : Nat) : Nat :=
  if month = 2 then (if isLeap year then 29 else 28)
  else if month = 4 ∨ month = 6 ∨ month = 9 ∨ month = 11 then 30
  else 31

/-- The text after a date at the front of the word. -/
def afterDate? : List Char → Option (List Char)
  | a :: b :: c :: d :: '-' :: e :: f :: '-' :: g :: h :: rest => do
    if [a, b, c, d].all Char.isDigit then
      let month ← twoDigits? 1 12 e f
      let _ ← twoDigits? 1 (daysIn (valueIn 10 [a, b, c, d]) month) g h
      some rest
    else none
  | _ => none

/-- The text after the seconds of a time, which may be left out, and their fraction. -/
def afterSeconds? : List Char → Option (List Char)
  | ':' :: a :: b :: rest => do
    let _ ← twoDigits? 0 60 a b
    match rest with
    | '.' :: rest =>
      if (rest.takeWhile Char.isDigit).isEmpty then none else some (rest.dropWhile Char.isDigit)
    | rest => some rest
  | rest => some rest

/-- The text after a time of day at the front of the word. -/
def afterTime? : List Char → Option (List Char)
  | a :: b :: ':' :: c :: d :: rest => do
    let _ ← twoDigits? 0 23 a b
    let _ ← twoDigits? 0 59 c d
    afterSeconds? rest
  | _ => none

/-- The word is a difference from universal time, of less than a day. -/
def isOffset : List Char → Bool
  | [] => true
  | ['Z'] | ['z'] => true
  | [s, a, b, ':', c, d] =>
    (s == '+' || s == '-') && (twoDigits? 0 23 a b).isSome && (twoDigits? 0 59 c d).isSome
  | _ => false

/-- A date, a time of day, or a date and a time with an optional difference after them. -/
def isMoment (cs : List Char) : Bool :=
  match afterDate? cs with
  | some [] => true
  | some (separator :: rest) =>
    (separator == 'T' || separator == 't' || separator == ' ') &&
      (match afterTime? rest with
        | some rest => isOffset rest
        | none => false)
  | none => afterTime? cs == some []

def ofWord? (cs : List Char) : Option Data :=
  if cs = ['t', 'r', 'u', 'e'] then some (.bool true)
  else if cs = ['f', 'a', 'l', 's', 'e'] then some (.bool false)
  else if isMoment cs then some .moment
  else (integer? cs).or (float? cs)

/-- A character of a word: neither blank nor one that ends a value or opens another. -/
def isWordChar (c : Char) : Bool :=
  !(c == ' ' || c == '\t' || c == '\n' || c == '\r' || c == ',' || c == '[' || c == ']' ||
    c == '\x7b' || c == '\x7d' || c == '#' || c == '=')

/-- After blanks the text goes on with a character that can stand at the front of a word. -/
def goesOn (cs : List Char) : Bool :=
  match cs.dropWhile Quoted.isGap with
  | [] => false
  | c :: _ => isWordChar c && !(c == '.' || c == '"' || c == '\'')

/-- The word at the front of the text and the text after it. Blanks before another piece of a
word belong to the word, as the one between a date and a time does. -/
def takeWord : List Char → List Char × List Char
  | [] => ([], [])
  | c :: rest =>
    if isWordChar c || Quoted.isGap c && goesOn rest then
      let (word, after) := takeWord rest
      (c :: word, after)
    else ([], c :: rest)

end EntityCrud.Toml.Scalar
