import EntityCrud.Statement
/-! A bounded store of compiled statements, least recently used out. A statement is kept
under everything that shapes it except its columns: a source type stands for one list of
columns, and its statements are dropped when that list changes. One use of the store ends before
the next begins: what is missing when a compilation begins is missing still when it ends. -/
namespace EntityCrud

namespace Cache

/-- What a statement is kept under. -/
structure Key where
  table : Table
  operation : Operation
  shape : Shape
  options : Options
  deriving DecidableEq, Repr, Inhabited

def Key.sourceType (key : Key) : String := key.table.sourceType

/-- A compiled statement as an object: the serial tells two statements of equal text apart. -/
structure Compiled where
  serial : Nat
  statement : Statement
  deriving Inhabited

/-- A kept statement and the time of its last use. -/
structure Entry where
  key : Key
  compiled : Compiled
  stamp : UInt64
  deriving Inhabited

end Cache

open Cache

structure Cache where
  /-- The greatest number of entries; zero keeps nothing. -/
  capacity : UInt64
  /-- Counts the look-ups, successful or not. -/
  clock : UInt64 := 0
  /-- The serial of the next compiled statement. -/
  serial : Nat := 0
  entries : List Entry := []
  deriving Inhabited

namespace Cache

def find? (cache : Cache) (key : Key) : Option Entry :=
  cache.entries.find? fun entry => entry.key == key

/-- Moves the clock on; an entry of the key is stamped with the new time. -/
def touch (cache : Cache) (key : Key) : Cache :=
  let now := cache.clock + 1
  { cache with
    clock := now
    entries := cache.entries.map fun entry =>
      if entry.key = key then { entry with stamp := now } else entry }

/-- The statement of a key, which counts as a use of it. -/
def get (cache : Cache) (key : Key) : Option Compiled × Cache :=
  ((cache.find? key).map Entry.compiled, cache.touch key)

/-- The first entry with the least stamp. -/
def oldest? : List Entry → Option Entry
  | [] => none
  | entry :: rest =>
    match oldest? rest with
    | none => some entry
    | some other => if entry.stamp ≤ other.stamp then some entry else some other

/-- Drops the entry with the least stamp. -/
def evict (cache : Cache) : Cache :=
  match oldest? cache.entries with
  | none => cache
  | some oldest =>
    { cache with entries := cache.entries.filter fun entry => entry.key != oldest.key }

/-- Keeps a compiled statement of a key that has none, after making room for it. -/
def store (cache : Cache) (key : Key) (compiled : Compiled) : Cache :=
  let cache := cache.touch key
  let cache := if cache.capacity.toNat ≤ cache.entries.length then cache.evict else cache
  { cache with entries := cache.entries ++ [⟨key, compiled, cache.clock⟩] }

/-- Compiles through the cache: a kept statement is returned as it is, a new one is kept,
and a refusal leaves nothing behind. -/
def compile (cache : Cache) (key : Key) (columns : List Column) :
    Except Refusal Compiled × Cache :=
  match cache.get key with
  | (some compiled, cache) => (.ok compiled, cache)
  | (none, cache) =>
    match Statement.compile key.operation key.shape columns key.table key.options with
    | .error cause => (.error cause, cache)
    | .ok statement =>
      let compiled := ⟨cache.serial, statement⟩
      let cache := { cache with serial := cache.serial + 1 }
      (.ok compiled, if cache.capacity = 0 then cache else cache.store key compiled)

/-- Drops the statements of a source type and says how many there were. -/
def invalidate (cache : Cache) (sourceType : String) : Nat × Cache :=
  let kept := cache.entries.filter fun entry => entry.key.sourceType != sourceType
  (cache.entries.length - kept.length, { cache with entries := kept })

/-- Drops all statements. -/
def clear (cache : Cache) : Cache := { cache with entries := [] }

def size (cache : Cache) : Nat := cache.entries.length

def isEmpty (cache : Cache) : Bool := cache.entries.isEmpty

/-- One use of a cache. -/
inductive Step where
  | compile (key : Key) (columns : List Column)
  | get (key : Key)
  | invalidate (sourceType : String)
  | clear
  deriving DecidableEq, Repr

/-- What a step answers. -/
inductive Answer where
  | compiled (outcome : Except Refusal Compiled)
  | found (hit : Option Compiled)
  | dropped (count : Nat)
  | cleared
  deriving Inhabited

def step (cache : Cache) : Step → Answer × Cache
  | .compile key columns =>
    let (outcome, cache) := cache.compile key columns
    (.compiled outcome, cache)
  | .get key =>
    let (hit, cache) := cache.get key
    (.found hit, cache)
  | .invalidate sourceType =>
    let (count, cache) := cache.invalidate sourceType
    (.dropped count, cache)
  | .clear => (.cleared, cache.clear)

/-- The answers of the steps in turn and the cache after them. -/
def run (cache : Cache) : List Step → List Answer × Cache
  | [] => ([], cache)
  | s :: rest =>
    let (answer, cache) := cache.step s
    let (answers, cache) := cache.run rest
    (answer :: answers, cache)

end Cache
end EntityCrud
