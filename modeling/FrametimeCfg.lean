import FrametimeCfg.Lib.Effect
import FrametimeCfg.Lib.Trace
import FrametimeCfg.Domain.Json
import FrametimeCfg.Domain.Catalog
import FrametimeCfg.Domain.Progress
import FrametimeCfg.Domain.Audit
import FrametimeCfg.Domain.Handoff
import FrametimeCfg.Domain.Evidence
import FrametimeCfg.Domain.Backup
import FrametimeCfg.Domain.Engine
import FrametimeCfg.Verified.EngineTrace
import FrametimeCfg.Verified.EngineSafety
import FrametimeCfg.Domain.Fps
import FrametimeCfg.Domain.State
import FrametimeCfg.Windows.ActionCatalog
import FrametimeCfg.Domain.Benchmark
import FrametimeCfg.Domain.Orchestration
import FrametimeCfg.Verified.EngineOutcome
import FrametimeCfg.Verified.GateAgreement
import FrametimeCfg.Lib.Journal
import FrametimeCfg.Windows.Store
import FrametimeCfg.Windows.Persistence
import FrametimeCfg.Windows.Reboot
import FrametimeCfg.Verified.Authorization
import FrametimeCfg.Verified.Checkpoints
import FrametimeCfg.Verified.RebootRetry
import FrametimeCfg.Verified.FinalBenchmark
import FrametimeCfg.Verified.FinalBenchmarkRetry
import FrametimeCfg.Verified.BenchmarkStore
import FrametimeCfg.Lib.Runs
import FrametimeCfg.Verified.BenchmarkEvidence
import FrametimeCfg.Verified.Reload
import FrametimeCfg.Verified.CheckpointRuns
import FrametimeCfg.Verified.EngineRecords
import FrametimeCfg.Verified.RebootRuns
import FrametimeCfg.Verified.RebootSafety
import FrametimeCfg.Domain.AuditFile
import FrametimeCfg.Verified.AuditCodec
import FrametimeCfg.Windows.Pagefile
import FrametimeCfg.Windows.PagefileNative
import FrametimeCfg.Verified.PagefileInverse
import FrametimeCfg.Verified.PagefileCompensation
import FrametimeCfg.Lib.FirstValue
import FrametimeCfg.Verified.FirstValueBackup
import FrametimeCfg.Windows.Drs
import FrametimeCfg.Windows.DrsStore
import FrametimeCfg.Verified.DrsTransaction
import FrametimeCfg.Verified.DrsInverse
import FrametimeCfg.Lib.Wide
import FrametimeCfg.Windows.Registry
import FrametimeCfg.Windows.RegistryRestore
import FrametimeCfg.Verified.RegistryInverse
import FrametimeCfg.Domain.Driver
import FrametimeCfg.Domain.DriverEvidence
import FrametimeCfg.Verified.DriverDurability
import FrametimeCfg.Domain.Cs2Config
import FrametimeCfg.Domain.Cs2ConfigBackup
import FrametimeCfg.Verified.Cs2ConfigInverse
import FrametimeCfg.Verified.OptionalPrecondition
import FrametimeCfg.Windows.OptionalCfgs
import FrametimeCfg.Verified.OptionalRecovery
import FrametimeCfg.Domain.NetworkStack
import FrametimeCfg.Windows.NetworkStack
import FrametimeCfg.Verified.NetworkStackCapture
import FrametimeCfg.Verified.EngineAccounts
import FrametimeCfg.Verified.StateCodec
import FrametimeCfg.Lib.Decimal
import FrametimeCfg.Domain.Migration
import FrametimeCfg.Verified.ProgressKeys
import FrametimeCfg.Verified.MigrationDocuments
import FrametimeCfg.Verified.BenchmarkCommits
import FrametimeCfg.Verified.CaptureInterference
import FrametimeCfg.Domain.Serde
import FrametimeCfg.Domain.BackupRecords
import FrametimeCfg.Windows.RestoreMatching
import FrametimeCfg.Verified.RecoveryBookkeeping
import FrametimeCfg.Domain.InterruptPolicy
import FrametimeCfg.Lib.Distinct
import FrametimeCfg.Windows.Interrupts
import FrametimeCfg.Domain.Operations
import FrametimeCfg.Windows.LiveHost
import FrametimeCfg.Verified.DriverCoherence
import FrametimeCfg.Lib.Recorded
import FrametimeCfg.Verified.DriverRemoval
import FrametimeCfg.Verified.InterruptedRemoval
import FrametimeCfg.Domain.ReceiptDocument
import FrametimeCfg.Verified.ReceiptFields
import FrametimeCfg.Domain.RoundTrip
import FrametimeCfg.Northclock.Operation
import FrametimeCfg.Northclock.Application
import FrametimeCfg.Verified.OperationCalls
import FrametimeCfg.Verified.WriteCompensation
import FrametimeCfg.Verified.WriteGate
import FrametimeCfg.Verified.OperationInverse
import FrametimeCfg.Northclock.Persistence
import FrametimeCfg.Verified.StoredFiles
import FrametimeCfg.DriverFoundry.Catalog
import FrametimeCfg.Lib.Dependency
import FrametimeCfg.Lib.Fuel
import FrametimeCfg.Verified.ComponentClosure
import FrametimeCfg.DriverFoundry.Copy
import FrametimeCfg.Verified.PreparedPackage
import FrametimeCfg.Lib.Buffer
import FrametimeCfg.Windows.Acl
import FrametimeCfg.Verified.AclWalk
import FrametimeCfg.Windows.Smbios
import FrametimeCfg.Verified.SmbiosWalk
import FrametimeCfg.Domain.Runtime
import FrametimeCfg.Windows.RuntimeTrust
import FrametimeCfg.Verified.RuntimeAcceptance
import FrametimeCfg.Lib.Splitting
import FrametimeCfg.Verified.CfgGeneration
import FrametimeCfg.Domain.EvidenceFile
import FrametimeCfg.Verified.LiveRecords
import FrametimeCfg.Windows.IrreversibleAudit
import FrametimeCfg.Lib.Hex
import FrametimeCfg.Verified.PciIdentity
import FrametimeCfg.Windows.DeviceBindings
import FrametimeCfg.Windows.PowerPlan
import FrametimeCfg.Verified.PowerPlanListing
import FrametimeCfg.Verified.PowerPlanRestore
import FrametimeCfg.Domain.Logging
import FrametimeCfg.Verified.LogRedaction
import FrametimeCfg.Domain.Steam
import FrametimeCfg.Verified.VdfLexer
import FrametimeCfg.Verified.VdfParser
import FrametimeCfg.Verified.ManifestScan
import FrametimeCfg.Verified.ManifestAcceptance
import FrametimeCfg.Verified.JournalOutcomes
import FrametimeCfg.Verified.EvidenceClock
import FrametimeCfg.Verified.DriverWire
import FrametimeCfg.Verified.PlanOrder
import FrametimeCfg.Verified.ProfileStore
import FrametimeCfg.Verified.CleanPlan
import FrametimeCfg.Verified.FileTokens
import FrametimeCfg.Windows.Chipset
import FrametimeCfg.Windows.Observations
import FrametimeCfg.Windows.LiveObservations
import FrametimeCfg.Windows.LiveInspection
import FrametimeCfg.Windows.LiveVerification
import FrametimeCfg.Verified.InterruptReobservation
import FrametimeCfg.Verified.LiveDispatch
import FrametimeCfg.Verified.RepeatedVerification
