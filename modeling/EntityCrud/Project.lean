import EntityCrud.Settings
import EntityCrud.Column.Basic
/-! Projects: the entities of a configuration file with the settings they share. A usable
project has entities, and each of them a name of its own, a table and columns. -/
namespace EntityCrud
open Sql (DialectName)

structure Entity where
  name : String
  table : Table
  /-- Stands in for the project's setting. -/
  bulkLoad : Option Bool := none
  /-- Stands in for the project's setting. -/
  readLimit : Option UInt32 := none
  columns : List Column
  deriving DecidableEq, Repr, Inhabited

namespace Entity

/-- A column refers to a parent, so that there are collections of the entity to load. -/
def hasForeignKey (e : Entity) : Bool := e.columns.any Column.foreignKey

/-- The adapter settings of the entity over those of the project. -/
def adapter (e : Entity) (defaults : Adapter) : Adapter where
  bulkLoad := e.bulkLoad.getD defaults.bulkLoad
  readLimit := e.readLimit.or defaults.readLimit

end Entity

structure Project where
  source : DataSource := {}
  adapter : Adapter := {}
  entities : List Entity := []
  deriving DecidableEq, Repr, Inhabited

/-- Why a configuration file holds no usable project. -/
inductive ProjectFault where
  /-- The text is no document, or a field is missing or does not fit. Which of these it is, and where
  in the text, is left out of the message. -/
  | unreadable
  | noEntities
  | blankEntityName
  | duplicateEntity (name : String)
  | blankTable (entity : String)
  | noColumns (entity : String)
  deriving DecidableEq, Repr

namespace ProjectFault

/-- The message for a file of this name. -/
def message (file : String) : ProjectFault → String
  | .unreadable => "failed to parse config file " ++ file
  | .noEntities => "at least one [[entities]] entry is required"
  | .blankEntityName => "entities.name must not be empty"
  | .duplicateEntity name => "duplicate entity name: " ++ name
  | .blankTable entity => s!"entities.table must not be empty (entity: {entity})"
  | .noColumns entity => s!"entity {entity} has no [[entities.columns]]"

end ProjectFault

namespace Project

/-- The first fault of the entities in their order, given the names before them. -/
def entityFault? (seen : List String) : List Entity → Option ProjectFault
  | [] => none
  | e :: rest =>
    if Text.isBlank e.name then some .blankEntityName
    else if e.name ∈ seen then some (.duplicateEntity e.name)
    else if Text.isBlank e.table.name then some (.blankTable e.name)
    else if e.columns.isEmpty then some (.noColumns e.name)
    else entityFault? (e.name :: seen) rest

/-- What makes the project unusable, if anything does. -/
def fault? (p : Project) : Option ProjectFault :=
  if p.entities.isEmpty then some .noEntities else entityFault? [] p.entities

def entity? (p : Project) (name : String) : Option Entity :=
  p.entities.find? fun e => e.name == name

/-- The options for compiling an entity, with a dialect that may stand in for the project's. -/
def options (p : Project) (e : Entity) (dialect : Option DialectName) : Options :=
  let merged := Options.merge p.source (e.adapter p.adapter)
  match dialect with
  | some name => { merged with dialect := name }
  | none => merged

end Project
end EntityCrud
