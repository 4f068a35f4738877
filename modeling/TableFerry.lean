import TableFerry.Main
import TableFerry.Proofs.CopyExactness
import TableFerry.Proofs.RebuildTargets
import TableFerry.Proofs.TableLifecycle
import TableFerry.Proofs.Toleration
import TableFerry.Proofs.Transfers
import TableFerry.Proofs.Savepoints
import TableFerry.Proofs.TableAtomicity
import TableFerry.Proofs.BucketCommits
import TableFerry.Proofs.InsertedRows
import TableFerry.Proofs.ReportedWork
import TableFerry.Proofs.ShuffledPages
import TableFerry.Proofs.BalancedBuckets
import TableFerry.Proofs.ColumnMatching
import TableFerry.Proofs.Interleavings
import TableFerry.Proofs.TableTurns
import TableFerry.Proofs.ProtectedTables
import TableFerry.Proofs.ExitStatus
import TableFerry.Proofs.DryRuns
import TableFerry.Proofs.IndexNames
import TableFerry.Proofs.RebuildCourse
import TableFerry.Proofs.PrimaryKeys
import TableFerry.Proofs.TargetWrites
import TableFerry.Proofs.BoundPlaces
import TableFerry.Proofs.SearchIndexNames
import TableFerry.Proofs.NullDefaults
import TableFerry.Proofs.TextDefaults
import TableFerry.Proofs.WholeExpressions
import TableFerry.Proofs.MarkedTexts
import TableFerry.Proofs.NamePaths
import TableFerry.Proofs.EscapedTexts
import TableFerry.Proofs.CommentStatements
import TableFerry.Proofs.WholeIndexes
import TableFerry.Proofs.RootCauses
import TableFerry.Proofs.RequestedTable
import TableFerry.Proofs.SinglePass
import TableFerry.Proofs.ConfigRoundTrips
import TableFerry.Proofs.GuardedSettings
import TableFerry.Proofs.MappedTypes
import TableFerry.Proofs.DroppedIndexes
import TableFerry.Proofs.WrittenSizes
