import SchemaLedger.Embedded.Store
import SchemaLedger.Exchange.Rehearsal
import SchemaLedger.Main
import SchemaLedger.Value.Json
import SchemaLedger.Proofs.History.IdentityWords
import SchemaLedger.Proofs.History.LedgerSafety
import SchemaLedger.Proofs.History.NameSet
import SchemaLedger.Proofs.History.RefusedRemoval
import SchemaLedger.Proofs.History.Retry
import SchemaLedger.Proofs.History.RunOnce
import SchemaLedger.Proofs.History.RunTrace
import SchemaLedger.Proofs.History.SharedNames
import SchemaLedger.Proofs.History.StatusForecast
import SchemaLedger.Proofs.History.UpThenDown
import SchemaLedger.Proofs.Plan.ByIdWrites
import SchemaLedger.Proofs.Plan.ClauseOrder
import SchemaLedger.Proofs.Plan.ColumnDefinitions
import SchemaLedger.Proofs.Plan.EmptyLists
import SchemaLedger.Proofs.Plan.FirstRow
import SchemaLedger.Proofs.Plan.FlaggedIndexes
import SchemaLedger.Proofs.Plan.HeldBack
import SchemaLedger.Proofs.Plan.ImpliedNormalForm
import SchemaLedger.Proofs.Plan.LeadingCommands
import SchemaLedger.Proofs.Plan.Limits
import SchemaLedger.Proofs.Plan.OwnChannels
import SchemaLedger.Proofs.Plan.RepeatedColumns
import SchemaLedger.Proofs.Plan.Sending
import SchemaLedger.Proofs.Plan.TableCreation
import SchemaLedger.Proofs.Plan.UsableLimits
import SchemaLedger.Proofs.Sql.DefinitionClauses
import SchemaLedger.Proofs.Sql.DefinitionReading
import SchemaLedger.Proofs.Sql.LiteralReading
import SchemaLedger.Proofs.Sql.MissingRules
import SchemaLedger.Proofs.Sql.NullValues
import SchemaLedger.Proofs.Sql.RecordStatement
import SchemaLedger.Proofs.Sql.StructuralStatement
import SchemaLedger.Proofs.Sql.TablePrefix
import SchemaLedger.Proofs.Value.InsertionOrder
import SchemaLedger.Proofs.Value.WholeNumber
import SchemaLedger.Proofs.Embedded.LedgerTable
import SchemaLedger.Proofs.Exchange.Recording
import SchemaLedger.Proofs.Json.ReadBack
import SchemaLedger.Proofs.Setup.StoredConfig
