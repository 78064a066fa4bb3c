import EntityCrud.Json.Reader
import EntityCrud.Value
import EntityCrud.Cache
import EntityCrud.Main
import EntityCrud.Proofs.WhereClause
import EntityCrud.Proofs.Decoding.RoundTrip
import EntityCrud.Proofs.Caching.Survival
import EntityCrud.Proofs.NulCharacters
import EntityCrud.Proofs.RoutingTable
import EntityCrud.Proofs.Objections
import EntityCrud.Proofs.Projects
import EntityCrud.Proofs.Checking
import EntityCrud.Proofs.Indifference
import EntityCrud.Proofs.Arguments
import EntityCrud.Proofs.Binding
import EntityCrud.Proofs.DroppedColumns
import EntityCrud.Proofs.AppendedColumns
import EntityCrud.Proofs.BareNames
import EntityCrud.Proofs.References
import EntityCrud.Proofs.Occurrences
import EntityCrud.Proofs.Aliases
import EntityCrud.Proofs.SettingsRuns
import EntityCrud.Proofs.AnyDialect
import EntityCrud.Proofs.DelimitedParts
import EntityCrud.Proofs.GreedyChoice
import EntityCrud.Proofs.QuotedNames
import EntityCrud.Proofs.Caching.Eviction
