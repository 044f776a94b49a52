import LakeCat.Text
import LakeCat.Json
import LakeCat.Fallible
import LakeCat.Core
import LakeCat.StoreChecks
import LakeCat.TableRecords
import LakeCat.CatalogRecords
import LakeCat.ViewRecords
import LakeCat.GovernedScan
import LakeCat.StoreHelpers
import LakeCat.MemoryStoreCore
import LakeCat.MemoryStoreRecords
import LakeCat.MemoryStore
import LakeCat.Transition
import LakeCat.LinkedLog
import LakeCat.OrderedMap
import LakeCat.MemoryStoreChecks
import LakeCat.MemorySteps
import LakeCat.MemoryCatalog
import LakeCat.CommitEvidence
import LakeCat.WellFormed
import LakeCat.CommitHistory
import LakeCat.NamespaceContainment
import LakeCat.Operability
import LakeCat.ExactlyOnce
import LakeCat.LostUpdates
import LakeCat.SnapshotIsolation
import LakeCat.TursoRows
import LakeCat.TursoContainment
import LakeCat.TursoLifecycle
import LakeCat.ViewChains
import LakeCat.ViewHistory
import LakeCat.FailedCalls
import LakeCat.NameKeys
import LakeCat.ViewListing
import LakeCat.TableSlices
import LakeCat.TableIsolation
import LakeCat.EventIds
import LakeCat.ThreeValued
import LakeCat.ValueRanges
import LakeCat.SailMetadata
import LakeCat.ScanFilters
import LakeCat.FilePruning
import LakeCat.FilterMeaning
import LakeCat.PruningSound
import LakeCat.ScanFiles
import LakeCat.PlanTokens
import LakeCat.ScanPlanning
import LakeCat.FetchSteps
import LakeCat.ReadRestrictions
import LakeCat.PlanCodecModel
import LakeCat.GovernedScans
import LakeCat.TokenOrigins
import LakeCat.Worklist
import LakeCat.TaskFiles
import LakeCat.PlanExpansion
import LakeCat.OptionalMeet
import LakeCat.Restriction
import LakeCat.OdrlPolicies
import LakeCat.Authorization
import LakeCat.ScanGrants
import LakeCat.GrantSoundness
import LakeCat.GrantRenewal
import LakeCat.ScanAuthorization
import LakeCat.ServiceRequests
import LakeCat.AuthorizationNames
import LakeCat.MetadataGraph
import LakeCat.OutboxEmissions
import LakeCat.OutboxProjection
import LakeCat.OutboxDrain
import LakeCat.OutboxDelivery
import LakeCat.DrainRuns
import LakeCat.DrainSystems
import LakeCat.StorageProfiles
import LakeCat.CredentialIssuers
import LakeCat.LoadCredentials
import LakeCat.CredentialScope
import LakeCat.ScanEvents
import LakeCat.PlanRequests
import LakeCat.PlanConsistency
import LakeCat.ViewLocking
import LakeCat.ReceiptChains
import LakeCat.ChangeEvents
import LakeCat.ChangeAtomicity
import LakeCat.QueryGraphBundles
import LakeCat.BundleTampering
import LakeCat.QueryGraphProjections
import LakeCat.BundleSerialization
import LakeCat.BundleConstruction
import LakeCat.BootstrapRequests
import LakeCat.BootstrapConsistency
import LakeCat.EvidenceFields
import LakeCat.ReceiptEvidence
import LakeCat.RequestIdentities
import LakeCat.TableEvidence
import LakeCat.OutboxValidation
import LakeCat.ParentWalks
import LakeCat.SnapshotChains
import LakeCat.RowIds
import LakeCat.TableRenames
import LakeCat.NamespaceDrops
import LakeCat.RequirementChecks
import LakeCat.InitialMetadata
import LakeCat.FreshFieldIds
import LakeCat.FieldReferences
import LakeCat.Programs
import LakeCat.CatalogProvider
import LakeCat.ProviderAccess
import LakeCat.ViewCreation
import LakeCat.CreateRaces
import LakeCat.ProfileSelection
import LakeCat.NamespacePages
import LakeCat.FirstOccurrences
import LakeCat.ColumnNarrowing
import LakeCat.ErrorKinds
import LakeCat.NamespaceSpelling
import LakeCat.JsonTexts
import LakeCat.CanonicalJson
import LakeCat.ProofTampering
import LakeCat.CanonicalProjections
import LakeCat.CredentialEvidence
import LakeCat.MetadataLocations
import LakeCat.FirstInserted
import LakeCat.GraphContents
import LakeCat.CatalogGraphs
import LakeCat.ForestWalks
import LakeCat.NamespaceTrees
import LakeCat.NamespaceWalks
import LakeCat.KeyScopes
import LakeCat.ColumnConversion
import LakeCat.ColumnReading
import LakeCat.EventKinds
import LakeCat.NumberedLogs
import LakeCat.ModelPublications
import LakeCat.TursoPublications
import LakeCat.CommitHistoryEvidence
import LakeCat.LineageSinks
import LakeCat.ProjectedGraph
import LakeCat.RepeatedDelivery
import LakeCat.GraphEventIds
import LakeCat.RetriedProjections
import LakeCat.DefaultLocations
import LakeCat.GraphSubjects
import LakeCat.ReadEvents
import LakeCat.HandlerObjects
import LakeCat.RecordedObjects
import LakeCat.SubjectIdentity
import LakeCat.AlikeDocuments
import LakeCat.SecretDigests
import LakeCat.SealedIdentities
import LakeCat.SealedCredentials
import LakeCat.ManagementUpserts
import LakeCat.RedactedRecords
import LakeCat.SecretRequests
import LakeCat.HeldCells
import LakeCat.CommitPlans
import LakeCat.MetadataObjects
import LakeCat.TableHandlers
import LakeCat.OrderlyHandlers
import LakeCat.ObjectRuns
import LakeCat.MirroredTables
import LakeCat.CheckedCommits
import LakeCat.RowImages
import LakeCat.Lockstep
import LakeCat.StoreCalls
import LakeCat.StoreImages
import LakeCat.StoreRedraws
import LakeCat.StoreCommits
import LakeCat.StoreRenames
import LakeCat.StoreDrops
import LakeCat.StoreInvariants
import LakeCat.StoreAgreement
