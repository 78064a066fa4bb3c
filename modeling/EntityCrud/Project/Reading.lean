import EntityCrud.Data
import EntityCrud.Project
import EntityCrud.Toml.Reader
/-! Reading settings, entities and whole projects out of documents. Fields that are not known are passed
over, and a field that is missing has its default. -/
namespace EntityCrud
open Data (Format)
open Sql (DialectName)

def DataSource.ofData? (format : Format) (d : Data) : Option DataSource := do
  let r ← d.record? format
    ["dialect", "dirty_reads", "encapsulate_identifiers", "command_timeout_secs"]
  let dialect ← r.withDefault "dialect" (Data.choice? format DialectName.ofTag?) .sqlServer
  let dirtyReads ← r.withDefault "dirty_reads" Data.bool? false
  let encapsulate ← r.withDefault "encapsulate_identifiers" Data.bool? false
  let timeoutSeconds ←
    r.withDefault "command_timeout_secs" (Data.orNull? Data.uint64?) none
  return { dialect, dirtyReads, encapsulate, timeoutSeconds }

def Adapter.ofData? (format : Format) (d : Data) : Option Adapter := do
  let r ← d.record? format ["bulk_load", "read_limit"]
  let bulkLoad ← r.withDefault "bulk_load" Data.bool? false
  let readLimit ← r.withDefault "read_limit" (Data.orNull? Data.uint32?) none
  return { bulkLoad, readLimit }

def Column.ofData? (format : Format) (d : Data) : Option Column := do
  let r ← d.record? format
    ["name", "type", "alias", "parameter", "direction", "nullable", "primary_key", "foreign_key",
      "db_generated"]
  let name ← r.required "name" Data.text?
  let type ← r.withDefault "type" (Data.choice? format DataType.ofTag?) .text
  let aliasName ← r.optional "alias" Data.text?
  let parameter ← r.optional "parameter" Data.text?
  let direction ← r.withDefault "direction" (Data.choice? format Direction.ofTag?) .input
  let nullable ← r.withDefault "nullable" Data.bool? false
  let primaryKey ← r.withDefault "primary_key" Data.bool? false
  let foreignKey ← r.withDefault "foreign_key" Data.bool? false
  let generated ← r.withDefault "db_generated" Data.bool? false
  return { name, type, parameter := parameter.getD ("@" ++ name), aliasName, direction,
           nullable, primaryKey, foreignKey, generated }

def Entity.ofData? (format : Format) (d : Data) : Option Entity := do
  let r ← d.record? format
    ["name", "table", "alias", "source_type", "bulk_load", "read_limit", "columns"]
  let name ← r.required "name" Data.text?
  let table ← r.required "table" Data.text?
  let aliasName ← r.optional "alias" Data.text?
  let sourceType ← r.optional "source_type" Data.text?
  let bulkLoad ← r.optional "bulk_load" Data.bool?
  let readLimit ← r.optional "read_limit" Data.uint32?
  let columns ← r.withDefault "columns" (Data.listOf? (Column.ofData? format)) []
  return { name, table := { name := table, aliasName, sourceType := sourceType.getD name },
           bulkLoad, readLimit, columns }

namespace Project

def ofData? (format : Format) (d : Data) : Option Project := do
  let r ← d.record? format ["data_source", "adapter", "entities"]
  let source ← r.withDefault "data_source" (DataSource.ofData? format) {}
  let adapter ← r.withDefault "adapter" (Adapter.ofData? format) {}
  let entities ← r.withDefault "entities" (Data.listOf? (Entity.ofData? format)) []
  return { source, adapter, entities }

/-- The project that a configuration file's text holds. -/
def parse (s : String) : Except ProjectFault Project :=
  match (Toml.parse? s).bind (ofData? .lenient) with
  | none => .error .unreadable
  | some project =>
    match project.fault? with
    | some fault => .error fault
    | none => .ok project

end Project
end EntityCrud
