import EntityCrud.Toml.Outline
import EntityCrud.Toml.Quoted
import EntityCrud.Toml.Scalar
/-! Reading TOML text: keys, values, and the lines that a document is made of. A fault
anywhere makes the whole document unreadable. -/
namespace EntityCrud.Toml.Reader

def skipGap (cs : List Char) : List Char := cs.dropWhile Quoted.isGap

/-- The text after a comment, up to the end of its line. -/
def skipComment : List Char → Option (List Char)
  | [] => some []
  | '\n' :: rest => some ('\n' :: rest)
  | '\r' :: '\n' :: rest => some ('\r' :: '\n' :: rest)
  | c :: rest => if Quoted.isPlain c then skipComment rest else none

/-- The text after all blanks, line ends and comments. -/
def skipFiller : Nat → List Char → Option (List Char)
  | 0, _ => none
  | fuel + 1, '#' :: rest => do skipFiller fuel (← skipComment rest)
  | fuel + 1, '\r' :: '\n' :: rest => skipFiller fuel rest
  | fuel + 1, c :: rest =>
    if Quoted.isGap c || c == '\n' then skipFiller fuel rest else some (c :: rest)
  | _ + 1, [] => some []

def filler (cs : List Char) : Option (List Char) := skipFiller (cs.length + 1) cs

def isBareKeyChar (c : Char) : Bool := c.isAlphanum || c == '_' || c == '-'

/-- One part of a key: quoted on one line, or bare. -/
def keyPart (cs : List Char) : Option (String × List Char) :=
  match cs with
  | '"' :: _ | '\'' :: _ => Quoted.oneLine? cs
  | _ =>
    match cs.takeWhile isBareKeyChar with
    | [] => none
    | bare => some (String.ofList bare, cs.dropWhile isBareKeyChar)

/-- The parts of a key between dots, with blanks around them, if there are not more than the
limit. -/
def keyWithin : Nat → List Char → Option (List String × List Char)
  | 0, _ => none
  | limit + 1, cs => do
    let (part, rest) ← keyPart (skipGap cs)
    match skipGap rest with
    | '.' :: rest =>
      let (path, rest) ← keyWithin limit rest
      some (part :: path, rest)
    | rest => some ([part], rest)

/-- The greatest number of parts of a key. -/
def keyLimit : Nat := 80

def key (cs : List Char) : Option (List String × List Char) := keyWithin keyLimit cs

/-- The greatest number of arrays and inline tables that may be open at once. -/
def depthLimit : Nat := 80

mutual

/-- A value, with the number of arrays and inline tables that may still be opened. -/
def value : Nat → Nat → List Char → Option (Data × List Char)
  | 0, _, _ => none
  | fuel + 1, depth, cs =>
    match cs with
    | '"' :: _ | '\'' :: _ => do
      let (s, rest) ← Quoted.string? cs
      some (.text s, rest)
    | '[' :: rest =>
      match depth with
      | 0 => none
      | depth + 1 => do
        let (items, rest) ← elements fuel depth (← filler rest)
        some (.list items, rest)
    | '\x7b' :: rest =>
      match depth with
      | 0 => none
      | depth + 1 => do
        let (entries, rest) ← fields fuel depth [] (← filler rest)
        some (.table (Node.entriesToData entries), rest)
    | _ => do
      let (word, rest) := Scalar.takeWord cs
      some (← Scalar.ofWord? word, rest)

/-- The elements of an array up to its closing bracket; a comma may follow the last. -/
def elements : Nat → Nat → List Char → Option (List Data × List Char)
  | 0, _, _ => none
  | fuel + 1, depth, cs =>
    match cs with
    | ']' :: rest => some ([], rest)
    | _ => do
      let (head, rest) ← value fuel depth cs
      match ← filler rest with
      | ',' :: rest =>
        let (tail, rest) ← elements fuel depth (← filler rest)
        some (head :: tail, rest)
      | ']' :: rest => some ([head], rest)
      | _ => none

/-- The entries of an inline table up to its closing brace; a comma may follow the last, and
lines may end anywhere but inside a key. -/
def fields : Nat → Nat → Entries → List Char → Option (Entries × List Char)
  | 0, _, _, _ => none
  | fuel + 1, depth, entries, cs =>
    match cs with
    | '\x7d' :: rest => some (entries, rest)
    | _ => do
      let (path, rest) ← key cs
      match ← filler rest with
      | '=' :: rest =>
        let (held, rest) ← value fuel depth (← filler rest)
        let entries ← Entries.assign held true path entries
        match ← filler rest with
        | ',' :: rest => fields fuel depth entries (← filler rest)
        | '\x7d' :: rest => some (entries, rest)
        | _ => none
      | _ => none

end

/-- The text after what may follow a value or a header on its line. -/
def lineEnd (cs : List Char) : Option (List Char) := do
  let rest ← match skipGap cs with
    | '#' :: rest => skipComment rest
    | rest => some rest
  match rest with
  | [] => some []
  | '\n' :: rest => some rest
  | '\r' :: '\n' :: rest => some rest
  | _ => none

/-- A header or an assignment at the front of the text. -/
def line (fuel : Nat) (cs : List Char) : Option (Line × List Char) :=
  match cs with
  | '[' :: '[' :: rest => do
    let (path, rest) ← key rest
    match rest with
    | ']' :: ']' :: rest => some (.listHeader path, rest)
    | _ => none
  | '[' :: rest => do
    let (path, rest) ← key rest
    match rest with
    | ']' :: rest => some (.header path, rest)
    | _ => none
  | _ => do
    let (path, rest) ← key cs
    match rest with
    | '=' :: rest =>
      let (held, rest) ← value fuel depthLimit (skipGap rest)
      some (.assignment path held, rest)
    | _ => none

/-- The lines of a document added to its outline in turn. -/
def document (outline : Outline) : Nat → List Char → Option Outline
  | 0, _ => none
  | fuel + 1, cs => do
    match ← filler cs with
    | [] => some outline
    | start =>
      let (found, rest) ← line (fuel + 1) start
      document (← outline.add found) fuel (← lineEnd rest)

end Reader

/-- The document that a text writes; a byte order mark at its front is passed over. -/
def parse? (s : String) : Option Data :=
  let cs := match s.toList with
    | '\ufeff' :: rest => rest
    | cs => cs
  (Reader.document {} (cs.length + 1) cs).map Outline.toData

end EntityCrud.Toml
