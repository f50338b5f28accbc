import UserRegistry.Config.Printer
import UserRegistry.Files
import UserRegistry.Json.Reader
import UserRegistry.Main
import UserRegistry.Proofs.Calendar
import UserRegistry.Proofs.CapacityText
import UserRegistry.Proofs.ConfigAcceptance
import UserRegistry.Proofs.ConfigLineEnds
import UserRegistry.Proofs.ConfigReading
import UserRegistry.Proofs.ConfigText
import UserRegistry.Proofs.CreationText
import UserRegistry.Proofs.DatesInMetadata
import UserRegistry.Proofs.DatetimeMetadata
import UserRegistry.Proofs.DatetimeText
import UserRegistry.Proofs.DigitRows
import UserRegistry.Proofs.Directory
import UserRegistry.Proofs.DistinctKeys
import UserRegistry.Proofs.DocumentFuel
import UserRegistry.Proofs.DocumentsAsWritten
import UserRegistry.Proofs.EntryOrder
import UserRegistry.Proofs.FailedSteps
import UserRegistry.Proofs.FileBytes
import UserRegistry.Proofs.FirstFaults
import UserRegistry.Proofs.FreshIdentifiers
import UserRegistry.Proofs.GapsAsWritten
import UserRegistry.Proofs.GivenRoles
import UserRegistry.Proofs.IdentifierOrder
import UserRegistry.Proofs.IdentifierText
import UserRegistry.Proofs.IndependentFields
import UserRegistry.Proofs.IndependentOperations
import UserRegistry.Proofs.InstantText
import UserRegistry.Proofs.JsonMetadata
import UserRegistry.Proofs.JsonText
import UserRegistry.Proofs.LineEnds
import UserRegistry.Proofs.LineReaders
import UserRegistry.Proofs.LogFilters
import UserRegistry.Proofs.LoggingIndependence
import UserRegistry.Proofs.Members
import UserRegistry.Proofs.MetadataHistory
import UserRegistry.Proofs.MetadataPaths
import UserRegistry.Proofs.NeutralEntries
import UserRegistry.Proofs.Outcomes
import UserRegistry.Proofs.PositionalRecords
import UserRegistry.Proofs.PrettyText
import UserRegistry.Proofs.Records
import UserRegistry.Proofs.Roles
import UserRegistry.Proofs.RunAndSession
import UserRegistry.Proofs.RunEvents
import UserRegistry.Proofs.Scanning
import UserRegistry.Proofs.SeedMetadata
import UserRegistry.Proofs.SeedNotations
import UserRegistry.Proofs.SeedReading
import UserRegistry.Proofs.SeedingOutcome
import UserRegistry.Proofs.Seniority
import UserRegistry.Proofs.SeparateCopies
import UserRegistry.Proofs.SessionEffect
import UserRegistry.Proofs.SessionParts
import UserRegistry.Proofs.SessionSoundness
import UserRegistry.Proofs.SharedStores
import UserRegistry.Proofs.StoreCapacity
import UserRegistry.Proofs.StoreHistory
import UserRegistry.Proofs.StoredUsers
import UserRegistry.Proofs.StringsAsWritten
import UserRegistry.Proofs.TomlDocument
import UserRegistry.Proofs.TomlTables
import UserRegistry.Proofs.TomlText
import UserRegistry.Proofs.TomlValues
import UserRegistry.Proofs.UserText
import UserRegistry.Registry
import UserRegistry.Session
