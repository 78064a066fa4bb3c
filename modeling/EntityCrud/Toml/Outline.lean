import EntityCrud.Data
/-! Building the tree of a TOML document. Headers open tables and lists of tables, dotted
keys make tables on their way, and each table remembers how it came about, because that
decides who may still add to it. -/
namespace EntityCrud.Toml

/-- How a table came about. -/
inductive Origin where
  /-- By a header of its own. -/
  | header
  /-- On the way of a header to a table inside it. -/
  | implied
  /-- On the way of a dotted key. -/
  | dotted
  deriving DecidableEq, Repr

inductive Node where
  /-- A finished value, an array or an inline table included. -/
  | leaf (value : Data)
  | table (origin : Origin) (entries : List (String × Node))
  /-- The tables of a list header, the latest of which is open. -/
  | series (earlier : List (List (String × Node))) (latest : List (String × Node))

abbrev Entries := List (String × Node)

namespace Node

mutual

def toData : Node → Data
  | .leaf value => value
  | .table _ entries => .table (entriesToData entries)
  | .series earlier latest => .list (seriesToData earlier ++ [.table (entriesToData latest)])

def entriesToData : List (String × Node) → List (String × Data)
  | [] => []
  | (name, node) :: rest => (name, node.toData) :: entriesToData rest

def seriesToData : List (List (String × Node)) → List Data
  | [] => []
  | entries :: rest => .table (entriesToData entries) :: seriesToData rest

end

end Node

namespace Entries

/-- Gives the name a new node in place of the one it has. -/
def replace (name : String) (node : Node) (entries : Entries) : Entries :=
  entries.map fun entry => if entry.1 = name then (name, node) else entry

def append (name : String) (node : Node) (entries : Entries) : Entries := entries ++ [(name, node)]

/-- Changes the table at the end of a header's path. Tables on the way are made where they are
missing, and of a list of tables the latest is entered. -/
def within (change : Entries → Option Entries) : List String → Entries → Option Entries
  | [], entries => change entries
  | name :: path, entries =>
    match entries.lookup name with
    | none => do
      return entries.append name (.table .implied (← within change path []))
    | some (.table origin inner) => do
      return entries.replace name (.table origin (← within change path inner))
    | some (.series earlier latest) => do
      return entries.replace name (.series earlier (← within change path latest))
    | some (.leaf _) => none

/-- Opens a table by its header. Only a table that headers have passed through is there before. -/
def openTable (name : String) (entries : Entries) : Option Entries :=
  match entries.lookup name with
  | none => some (entries.append name (.table .header []))
  | some (.table .implied inner) => some (entries.replace name (.table .header inner))
  | some _ => none

/-- Opens the next table of a list by its header. -/
def openNext (name : String) (entries : Entries) : Option Entries :=
  match entries.lookup name with
  | none => some (entries.append name (.series [] []))
  | some (.series earlier latest) => some (entries.replace name (.series (earlier ++ [latest]) []))
  | some _ => none

/-- Gives a key its value. A dotted key makes the tables on its way or enters those that dotted
keys and headers have only passed through; `home` tells whether the table at hand takes keys. -/
def assign (value : Data) (home : Bool) : List String → Entries → Option Entries
  | [], _ => none
  | [name], entries =>
    if home && (entries.lookup name).isNone then some (entries.append name (.leaf value)) else none
  | name :: path, entries =>
    match entries.lookup name with
    | none => do
      return entries.append name (.table .dotted (← assign value true path []))
    | some (.table .header _) => none
    | some (.table origin inner) => do
      return entries.replace name (.table origin (← assign value (origin == .dotted) path inner))
    | some (.series earlier latest) => do
      return entries.replace name (.series earlier (← assign value false path latest))
    | some (.leaf _) => none

end Entries

/-- A line of a document, comments and blank lines aside. -/
inductive Line where
  | header (path : List String)
  | listHeader (path : List String)
  | assignment (path : List String) (value : Data)

/-- A document under construction: its tree and the path of the last header. -/
structure Outline where
  entries : Entries := []
  current : List String := []

namespace Outline

def add (outline : Outline) : Line → Option Outline
  | .header path => do
    let name ← path.getLast?
    let entries ← Entries.within (Entries.openTable name) path.dropLast outline.entries
    return { entries, current := path }
  | .listHeader path => do
    let name ← path.getLast?
    let entries ← Entries.within (Entries.openNext name) path.dropLast outline.entries
    return { entries, current := path }
  | .assignment path value => do
    let entries ← Entries.within (Entries.assign value true path) outline.current outline.entries
    return { outline with entries }

def toData (outline : Outline) : Data := .table (Node.entriesToData outline.entries)

end Outline
end EntityCrud.Toml
