import StreamStore.Main
import StreamStore.Proofs.ConstrainedRange
import StreamStore.Proofs.LeaseAccounts
import StreamStore.Proofs.MergedPages
import StreamStore.Proofs.ScannerLedger
import StreamStore.Proofs.SnapshotPages
import StreamStore.Proofs.StreamIsolation
import StreamStore.Proofs.TimeRange
import StreamStore.Proofs.Rounding
import StreamStore.Proofs.NumberText
import StreamStore.Proofs.QuotedText
import StreamStore.Proofs.JsonReadBack
import StreamStore.Proofs.RecordMembers
import StreamStore.Proofs.FilterDocument
import StreamStore.Proofs.CellSetDocument
import StreamStore.Proofs.CanonicalForm
import StreamStore.Proofs.ConstraintWords
import StreamStore.Proofs.ConstraintLanguage
import StreamStore.Proofs.RowLimit
import StreamStore.Proofs.ResultDocument
import StreamStore.Proofs.NewestFirst
import StreamStore.Proofs.KeySegments
import StreamStore.Proofs.SplitRows
import StreamStore.Proofs.GatewayCalls
import StreamStore.Proofs.FailedFetch
import StreamStore.Proofs.TracedCalls
import StreamStore.Proofs.LocalErrors
import StreamStore.Proofs.TableSteps
import StreamStore.Proofs.LastWrites
import StreamStore.Proofs.SeparateTables
import StreamStore.Proofs.PathSegments
import StreamStore.Proofs.RowAddress
import StreamStore.Proofs.KeyBeginnings
import StreamStore.Proofs.StoredRowFilter
import StreamStore.Proofs.PrintedPage
import StreamStore.Proofs.ColumnOrder
import StreamStore.Proofs.PrefixReads
import StreamStore.Proofs.RowWrites
import StreamStore.Proofs.LimitText
import StreamStore.Proofs.RoundingOrder
import StreamStore.Proofs.ScanDocument
import StreamStore.Proofs.ComparatorText
import StreamStore.Proofs.IdentifierCodec
import StreamStore.Proofs.SettingsDocument
import StreamStore.Proofs.ConfiguredEndpoint
