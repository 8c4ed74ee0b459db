import Ntsql.Recovery.Operations
import Ntsql.Recovery.Atomicity
import Ntsql.Recovery.Invariant.Log
import Ntsql.Recovery.Invariant.Transactions
import Ntsql.Recovery.Invariant.Pages
import Ntsql.Recovery.Invariant.Checkpoint
import Ntsql.Recovery.Invariant.Phases
import Ntsql.Recovery.Invariant.Sound
import Ntsql.Recovery.Backing
import Ntsql.Recovery.Identities
import Ntsql.Recovery.Durability
import Ntsql.Recovery.ReplayEquivalence
import Ntsql.Recovery.Invariant.Generation
import Ntsql.Recovery.Invariant.CompletePrefix
import Ntsql.Recovery.Reopening
import Ntsql.Recovery.Recoverability
import Ntsql.Recovery.Outcome
import Ntsql.Recovery.Convergence
import Ntsql.Foundation.ByteField
import Ntsql.Foundation.FrameLog
import Ntsql.Domain.Identity
import Ntsql.Storage.Frame
import Ntsql.Storage.Layout
import Ntsql.Storage.Header
import Ntsql.Foundation.AppendFile
import Ntsql.Storage.PageStore
import Ntsql.Storage.PageStoreFormat
import Ntsql.Storage.PageStoreWrite
import Ntsql.Storage.PageStoreReopen
import Ntsql.Storage.LogHeader
import Ntsql.Storage.LogHeaderRoundTrip
import Ntsql.Storage.LogScan
import Ntsql.Storage.CommitLog
import Ntsql.Storage.CommitLogFormat
import Ntsql.Storage.CommitLogState
import Ntsql.Storage.CommitLogWrite
import Ntsql.Storage.CommitLogReopen
import Ntsql.Storage.CommitLogRun
import Ntsql.Storage.CommitLogReclaim
import Ntsql.Storage.CommitLogReclamation
import Ntsql.Storage.CommitLogHistory
import Ntsql.Storage.CommitLogCrash
import Ntsql.Foundation.History
import Ntsql.Transaction.Types
import Ntsql.Transaction.Durability
import Ntsql.Transaction.Coordinator
import Ntsql.Transaction.Effect
import Ntsql.Transaction.Protocol
import Ntsql.Transaction.Session
import Ntsql.Transaction.WriteAhead
import Ntsql.Transaction.FileStorage
import Ntsql.Transaction.StoredPosition
import Ntsql.Foundation.OrderedScan
import Ntsql.Transaction.PageEvidence
import Ntsql.Transaction.PageReconciliation
import Ntsql.Transaction.CommittedReconciliation
import Ntsql.Transaction.RecoveryCandidate
import Ntsql.Transaction.PageRecovery
import Ntsql.Transaction.DurablePrefix
import Ntsql.Transaction.RecoveryRun
import Ntsql.Foundation.CheckedSlice
import Ntsql.Transaction.CheckpointBaseline
import Ntsql.Storage.CheckpointEntry
import Ntsql.Storage.CheckpointEnvelope
import Ntsql.Storage.CheckpointCodec
import Ntsql.Storage.CompletenessEntry
import Ntsql.Storage.CompletenessCodec
import Ntsql.Storage.CheckpointRoundTrip
import Ntsql.Foundation.PortRun
import Ntsql.Transaction.CheckpointSelection
import Ntsql.Transaction.WalReclamation
import Ntsql.Transaction.WalReclamationProtocol
import Ntsql.Database.Manifest
import Ntsql.Database.ManifestSuccession
import Ntsql.Transaction.PhysicalReconciliation
import Ntsql.Foundation.SensitiveFold
import Ntsql.Storage.ChecksumSensitivity
import Ntsql.Foundation.ByteLayout
import Ntsql.Storage.ParsedImages
import Ntsql.Storage.CorruptionDetection
import Ntsql.Storage.ManifestCodec
import Ntsql.Storage.ManifestRoundTrip
import Ntsql.Recovery.Trace
import Ntsql.Recovery.TraceBounds
import Ntsql.Recovery.PrefixSearch
import Ntsql.Recovery.TraceExecution
import Ntsql.Recovery.Retainability
import Ntsql.Recovery.TraceGeneration
import Ntsql.Recovery.GeneratedModel
import Ntsql.Recovery.GeneratedOpening
import Ntsql.Recovery.GeneratedStages
import Ntsql.Recovery.GeneratedTrace
import Ntsql.Foundation.SortedTable
import Ntsql.Transaction.RestartAnalysis
import Ntsql.Transaction.RestartCompleteness
import Ntsql.Transaction.CheckpointDerivation
import Ntsql.Transaction.RestartRestoration
import Ntsql.Transaction.PrefixGrowth
import Ntsql.Transaction.RestorationExact
import Ntsql.Transaction.AnchoredReplay
import Ntsql.Transaction.RequiredImage
import Ntsql.Transaction.CompletenessExact
import Ntsql.Transaction.CheckpointMaterialization
import Ntsql.Transaction.MaterializationExact
import Ntsql.Transaction.CheckpointRepair
import Ntsql.Transaction.ReplayWindow
import Ntsql.Transaction.RepairPreparation
import Ntsql.Transaction.RepairRun
import Ntsql.Transaction.RepairRetry
import Ntsql.Transaction.RecoveryAgreement
import Ntsql.Transaction.RestartCompletion
