import EntityCrud.Proofs.Decoding.Token
/-! What the text of a statement says: the operation, and the names, references and limits in
their places. A reading is written as tokens, and read from them. -/
namespace EntityCrud.Sql

/-- The table that rows are read from, as the text shows it. -/
structure Reading.Source where
  table : String
  aliasName : Option String
  hint : Bool
  deriving DecidableEq, Repr

/-- A statement as its text shows it; a column stands beside the reference set against it. -/
inductive Reading where
  | exists (source : Reading.Source) (condition : List (String × String))
  | delete (table : String) (condition : List (String × String))
  | insert (table : String) (names references : List String)
  | update (table : String) (assignments condition : List (String × String))
  | select (limit : Option UInt32) (projection : List (String × Option String))
    (source : Reading.Source) (condition : List (String × String))
  deriving DecidableEq, Repr

namespace Token

/-- The tokens before the first separator, and those after it. -/
def cut? (separator : Token) : List Token → Option (List Token × List Token)
  | [] => none
  | t :: rest =>
    if t = separator then some ([], rest)
    else (cut? separator rest).map fun read => (t :: read.1, read.2)

/-- The items between the separators, if each of them can be read. -/
def listed {α : Type} (separator : Token) (item? : List Token → Option α) (tokens : List Token) :
    Option (List α) :=
  (tokens.splitOn separator).mapM item?

theorem cut?_append {separator : Token} {front : List Token} (absent : separator ∉ front)
    (back : List Token) : cut? separator (front ++ separator :: back) = some (front, back) := by
  induction front with
  | nil => simp [cut?]
  | cons t front ih =>
    obtain ⟨other, absent⟩ := List.ne_and_not_mem_of_not_mem_cons absent
    simp [cut?, other.symm, ih absent]

theorem cut?_eq_none {separator : Token} {tokens : List Token} (absent : separator ∉ tokens) :
    cut? separator tokens = none := by
  induction tokens with
  | nil => rfl
  | cons t tokens ih =>
    obtain ⟨other, absent⟩ := List.ne_and_not_mem_of_not_mem_cons absent
    simp [cut?, other.symm, ih absent]

theorem listed_intercalate {α : Type} {separator : Token} {item? : List Token → Option α}
    {tokens : α → List Token} {items : List α} (nonempty : items ≠ [])
    (each : ∀ a ∈ items, item? (tokens a) = some a ∧ separator ∉ tokens a) :
    listed separator item? ([separator].intercalate (items.map tokens)) = some items := by
  have apart : ∀ part ∈ items.map tokens, separator ∉ part := by
    intro part member
    obtain ⟨a, here, rfl⟩ := List.mem_map.mp member
    exact (each a here).2
  rw [listed, List.splitOn_intercalate separator apart (by simpa using nonempty)]
  clear nonempty apart
  induction items with
  | nil => rfl
  | cons a items ih =>
    have rest := ih fun b member => each b (List.mem_cons_of_mem a member)
    simp [(each a (by simp)).1, rest]

def pair? : List Token → Option (String × String)
  | [.name column, .word "=", .word reference] => some (column, reference)
  | _ => none

def shown? : List Token → Option (String × Option String)
  | [.name column] => some (column, none)
  | [.name column, .word "AS", .name shown] => some (column, some shown)
  | _ => none

def name? : List Token → Option String
  | [.name text] => some text
  | _ => none

def word? : List Token → Option String
  | [.word text] => some text
  | _ => none

/-- The number that a word spells in decimal. -/
def number (text : String) : UInt32 := UInt32.ofNat (Nat.ofDigitChars 10 text.toList 0)

end Token

namespace Reading
open Token

/-- The tokens of a lock hint. -/
def hintTokens : List Token := [.word "WITH", .mark '(', .word "NOLOCK", .mark ')']

def Source.ofTokens : List Token → Option Source
  | [.name table] => some ⟨table, none, false⟩
  | [.name table, .word "AS", .name shown] => some ⟨table, some shown, false⟩
  | .name table :: .word "AS" :: .name shown :: hint =>
    if hint = hintTokens then some ⟨table, some shown, true⟩ else none
  | .name table :: hint => if hint = hintTokens then some ⟨table, none, true⟩ else none
  | _ => none

/-- The rest of a select after its limit, where that comes first. -/
def selectOfTokens (top : Option UInt32) (tokens : List Token) : Option Reading := do
  let (projection, rest) ← cut? (.word "FROM") tokens
  let (source, rest) ← cut? (.word "WHERE") rest
  let (condition, limit) :=
    match cut? (.word "LIMIT") rest with
    | some (condition, [.word limit]) => (condition, some (number limit))
    | _ => (rest, top)
  return .select limit (← listed (.mark ',') shown? projection) (← Source.ofTokens source)
    (← listed (.word "AND") pair? condition)

def ofTokens : List Token → Option Reading
  | .word "SELECT" :: .word "1" :: .word "FROM" :: rest => do
    let (source, condition) ← cut? (.word "WHERE") rest
    return .exists (← Source.ofTokens source) (← listed (.word "AND") pair? condition)
  | .word "DELETE" :: .word "FROM" :: .name table :: .word "WHERE" :: condition => do
    return .delete table (← listed (.word "AND") pair? condition)
  | .word "INSERT" :: .word "INTO" :: .name table :: .mark '(' :: rest => do
    let (names, rest) ← cut? (.mark ')') rest
    let (_, rest) ← cut? (.mark '(') rest
    let (references, _) ← cut? (.mark ')') rest
    return .insert table (← listed (.mark ',') name? names) (← listed (.mark ',') word? references)
  | .word "UPDATE" :: .name table :: .word "SET" :: rest => do
    let (assignments, condition) ← cut? (.word "WHERE") rest
    return .update table (← listed (.mark ',') pair? assignments)
      (← listed (.word "AND") pair? condition)
  | .word "SELECT" :: .word "TOP" :: .mark '(' :: .word limit :: .mark ')' :: rest =>
    selectOfTokens (some (number limit)) rest
  | .word "SELECT" :: rest => selectOfTokens none rest
  | _ => none

/-! The tokens that a reading is written with. Only the place of a row limit differs between
the dialects. -/

def pairTokens (pair : String × String) : List Token := [.name pair.1, .word "=", .word pair.2]

def shownTokens : String × Option String → List Token
  | (column, none) => [.name column]
  | (column, some shown) => [.name column, .word "AS", .name shown]

def Source.tokens (source : Source) : List Token :=
  shownTokens (source.table, source.aliasName) ++ if source.hint then hintTokens else []

def pairs (separator : Token) (list : List (String × String)) : List Token :=
  [separator].intercalate (list.map pairTokens)

def topTokens : DialectName → Option UInt32 → List Token
  | .sqlServer, some limit =>
    [.word "TOP", .mark '(', .word (toString limit.toNat), .mark ')']
  | _, _ => []

def limitTokens : DialectName → Option UInt32 → List Token
  | .postgres, some limit => [.word "LIMIT", .word (toString limit.toNat)]
  | _, _ => []

def tokens (dialect : DialectName) : Reading → List Token
  | .exists source condition =>
    .word "SELECT" :: .word "1" :: .word "FROM" ::
      (source.tokens ++ .word "WHERE" :: pairs (.word "AND") condition)
  | .delete table condition =>
    .word "DELETE" :: .word "FROM" :: .name table :: .word "WHERE" ::
      pairs (.word "AND") condition
  | .insert table names references =>
    .word "INSERT" :: .word "INTO" :: .name table :: .mark '(' ::
      ([.mark ','].intercalate (names.map fun name => [.name name]) ++
        [.mark ')', .word "VALUES", .mark '('] ++
        [.mark ','].intercalate (references.map fun reference => [.word reference]) ++
        [.mark ')'])
  | .update table assignments condition =>
    .word "UPDATE" :: .name table :: .word "SET" ::
      (pairs (.mark ',') assignments ++ .word "WHERE" :: pairs (.word "AND") condition)
  | .select limit projection source condition =>
    .word "SELECT" ::
      (topTokens dialect limit ++
        [.mark ','].intercalate (projection.map shownTokens) ++ .word "FROM" ::
        (source.tokens ++ .word "WHERE" ::
          (pairs (.word "AND") condition ++ limitTokens dialect limit)))

end Reading
end EntityCrud.Sql
