import EntityCrud.Json.Reader
/-! Quoted strings of TOML. The four kinds differ in whether escapes are read and whether
line ends may stand inside; each reader starts after the opening quotes and returns the
characters of the string and the text after the closing quotes. -/
namespace EntityCrud.Toml.Quoted

/-- A character that may stand in a document as it is: no control character but the tab. -/
def isPlain (c : Char) : Bool := c == '\t' || (decide (0x20 ≤ c.toNat) && c != '\x7f')

/-- The character with the code point that hexadecimal digits write. -/
def codePoint? (digits : List Char) : Option Char := do
  let values ← digits.mapM Json.Reader.hexDigit?
  let n := values.foldl (fun n digit => n * 16 + digit) 0
  if n.isValidChar then some (Char.ofNat n) else none

/-- The character of an escape after its backslash, and the text after the escape. -/
def escape? : List Char → Option (Char × List Char)
  | 'b' :: rest => some ('\x08', rest)
  | 't' :: rest => some ('\t', rest)
  | 'n' :: rest => some ('\n', rest)
  | 'f' :: rest => some ('\x0c', rest)
  | 'r' :: rest => some ('\r', rest)
  | 'e' :: rest => some ('\x1b', rest)
  | '"' :: rest => some ('"', rest)
  | '\\' :: rest => some ('\\', rest)
  | 'x' :: a :: b :: rest => (codePoint? [a, b]).map (·, rest)
  | 'u' :: a :: b :: c :: d :: rest => (codePoint? [a, b, c, d]).map (·, rest)
  | 'U' :: a :: b :: c :: d :: e :: f :: g :: h :: rest =>
    (codePoint? [a, b, c, d, e, f, g, h]).map (·, rest)
  | _ => none

/-- The string goes on with these characters. -/
def prepend (cs : List Char) : List Char × List Char → List Char × List Char
  | (content, rest) => (cs ++ content, rest)

/-- A basic string, which ends at an unescaped quotation mark on the same line. -/
def basic : Nat → List Char → Option (List Char × List Char)
  | 0, _ => none
  | _ + 1, '"' :: rest => some ([], rest)
  | fuel + 1, '\\' :: rest => do
    let (c, rest) ← escape? rest
    (basic fuel rest).map (prepend [c])
  | fuel + 1, c :: rest => if isPlain c then (basic fuel rest).map (prepend [c]) else none
  | _ + 1, [] => none

/-- A literal string, which ends at an apostrophe on the same line. -/
def literal : List Char → Option (List Char × List Char)
  | [] => none
  | '\'' :: rest => some ([], rest)
  | c :: rest => if isPlain c then (literal rest).map (prepend [c]) else none

/-- Up to two more quotes before the closing ones belong to the string. -/
def closing (quote : Char) : List Char → List Char × List Char
  | a :: b :: rest =>
    if a = quote ∧ b = quote then ([quote, quote], rest)
    else if a = quote then ([quote], b :: rest)
    else ([], a :: b :: rest)
  | [a] => if a = quote then ([quote], []) else ([], [a])
  | [] => ([], [])

def isGap (c : Char) : Bool := c == ' ' || c == '\t'

/-- After a backslash, blanks up to the end of the line. -/
def endsLine (cs : List Char) : Bool :=
  match cs.dropWhile isGap with
  | '\n' :: _ | '\r' :: '\n' :: _ => true
  | _ => false

/-- The text after all blanks and line ends. -/
def skipLines : List Char → List Char
  | '\r' :: '\n' :: rest => skipLines rest
  | c :: rest => if isGap c || c == '\n' then skipLines rest else c :: rest
  | [] => []

/-- A basic string of several lines. A backslash at the end of a line takes it out together
with all blanks and line ends that follow. -/
def basicLines : Nat → List Char → Option (List Char × List Char)
  | 0, _ => none
  | _ + 1, '"' :: '"' :: '"' :: rest => some (closing '"' rest)
  | fuel + 1, '\\' :: rest =>
    if endsLine rest then basicLines fuel (skipLines rest)
    else do
      let (c, rest) ← escape? rest
      (basicLines fuel rest).map (prepend [c])
  | fuel + 1, '\r' :: '\n' :: rest => (basicLines fuel rest).map (prepend ['\r', '\n'])
  | fuel + 1, c :: rest =>
    if isPlain c || c == '\n' then (basicLines fuel rest).map (prepend [c]) else none
  | _ + 1, [] => none

def literalLines : List Char → Option (List Char × List Char)
  | [] => none
  | '\'' :: '\'' :: '\'' :: rest => some (closing '\'' rest)
  | '\r' :: '\n' :: rest => (literalLines rest).map (prepend ['\r', '\n'])
  | c :: rest => if isPlain c || c == '\n' then (literalLines rest).map (prepend [c]) else none

/-- The text without a line end at its front. -/
def dropLineEnd : List Char → List Char
  | '\n' :: rest => rest
  | '\r' :: '\n' :: rest => rest
  | rest => rest

/-- A string on one line, its opening quote included. -/
def oneLine? : List Char → Option (String × List Char)
  | '"' :: rest => (basic (rest.length + 1) rest).map fun (cs, rest) => (String.ofList cs, rest)
  | '\'' :: rest => (literal rest).map fun (cs, rest) => (String.ofList cs, rest)
  | _ => none

/-- A string of any kind, its opening quotes included. A line end right after three quotes
does not belong to the string. -/
def string? : List Char → Option (String × List Char)
  | '"' :: '"' :: '"' :: rest =>
    (basicLines (rest.length + 1) (dropLineEnd rest)).map fun (cs, rest) => (String.ofList cs, rest)
  | '\'' :: '\'' :: '\'' :: rest =>
    (literalLines (dropLineEnd rest)).map fun (cs, rest) => (String.ofList cs, rest)
  | cs => oneLine? cs

end EntityCrud.Toml.Quoted
