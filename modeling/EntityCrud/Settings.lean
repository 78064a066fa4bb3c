import EntityCrud.Sql.Dialect
import EntityCrud.Table
/-! Settings of a data source, of an adapter and of one compilation. The last are merged
from the first two and can then be changed field by field. -/
namespace EntityCrud
open Sql (DialectName)

/-- Settings shared by all entities of one database. -/
structure DataSource where
  dialect : DialectName := .sqlServer
  /-- Read without taking shared locks. -/
  dirtyReads : Bool := false
  /-- Write identifiers between delimiters. -/
  encapsulate : Bool := false
  /-- The time a statement may take; none leaves it to the driver. -/
  timeoutSeconds : Option UInt64 := none
  deriving DecidableEq, Repr, Inhabited

/-- Settings for loading the collections of one entity. -/
structure Adapter where
  /-- Load child collections in one query for many parents. -/
  bulkLoad : Bool := false
  /-- The greatest number of rows a select may return. -/
  readLimit : Option UInt32 := none
  deriving DecidableEq, Repr, Inhabited

/-- Settings of one compilation. -/
structure Options where
  bulkLoad : Bool := false
  dirtyReads : Bool := false
  readLimitEnabled : Bool := false
  /-- Looked at only when the limit is enabled. -/
  readLimit : UInt32 := 0
  encapsulate : Bool := false
  /-- Stands in for the alias declared on the table. -/
  tableAlias : Option String := none
  dialect : DialectName := .sqlServer
  timeout : Option Timeout := none
  deriving DecidableEq, Repr, Inhabited

/-- The options that the two kinds of settings amount to. -/
def Options.merge (source : DataSource) (adapter : Adapter) : Options where
  bulkLoad := adapter.bulkLoad
  dirtyReads := source.dirtyReads
  readLimitEnabled := adapter.readLimit.isSome
  readLimit := adapter.readLimit.getD 0
  encapsulate := source.encapsulate
  tableAlias := none
  dialect := source.dialect
  timeout := source.timeoutSeconds.map Timeout.ofSeconds

structure Settings where
  source : DataSource := {}
  adapter : Adapter := {}
  options : Options := {}
  deriving DecidableEq, Repr, Inhabited

/-- A change of one setting, or the merge of the first two kinds into the third. -/
inductive Settings.Change where
  | sourceDialect (name : DialectName)
  | sourceDirtyReads (on : Bool)
  | sourceEncapsulate (on : Bool)
  /-- Only the whole seconds are kept. -/
  | sourceTimeout (timeout : Timeout)
  | adapterBulkLoad (on : Bool)
  | adapterReadLimit (limit : UInt32)
  | merge
  | bulkLoad (on : Bool)
  | dirtyReads (on : Bool)
  /-- Sets the limit and enables it. -/
  | readLimit (limit : UInt32)
  | encapsulate (on : Bool)
  | tableAlias (name : String)
  | dialect (name : DialectName)
  | timeout (timeout : Timeout)
  deriving DecidableEq, Repr

namespace Settings

def apply (s : Settings) : Change → Settings
  | .sourceDialect name => { s with source := { s.source with dialect := name } }
  | .sourceDirtyReads on => { s with source := { s.source with dirtyReads := on } }
  | .sourceEncapsulate on => { s with source := { s.source with encapsulate := on } }
  | .sourceTimeout timeout =>
    { s with source := { s.source with timeoutSeconds := some timeout.seconds } }
  | .adapterBulkLoad on => { s with adapter := { s.adapter with bulkLoad := on } }
  | .adapterReadLimit limit => { s with adapter := { s.adapter with readLimit := some limit } }
  | .merge => { s with options := Options.merge s.source s.adapter }
  | .bulkLoad on => { s with options := { s.options with bulkLoad := on } }
  | .dirtyReads on => { s with options := { s.options with dirtyReads := on } }
  | .readLimit limit =>
    { s with options := { s.options with readLimitEnabled := true, readLimit := limit } }
  | .encapsulate on => { s with options := { s.options with encapsulate := on } }
  | .tableAlias name => { s with options := { s.options with tableAlias := some name } }
  | .dialect name => { s with options := { s.options with dialect := name } }
  | .timeout timeout => { s with options := { s.options with timeout := some timeout } }

def applyAll (s : Settings) (changes : List Change) : Settings := changes.foldl apply s

end Settings
end EntityCrud
