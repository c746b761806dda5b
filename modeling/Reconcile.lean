import Reconcile.Interchange
import Reconcile.Main
import Reconcile.Proofs.Placement
import Reconcile.Proofs.Joining
import Reconcile.Proofs.Replacement
import Reconcile.Proofs.Course
import Reconcile.Proofs.Marking
import Reconcile.Proofs.Rollback
import Reconcile.Proofs.ApplySafety
import Reconcile.Proofs.Failing
import Reconcile.Proofs.Staleness
import Reconcile.Proofs.BlockGrammar
import Reconcile.Proofs.Classification
import Reconcile.Proofs.Throughout
import Reconcile.Proofs.Guarding
import Reconcile.Proofs.Reaching
import Reconcile.Proofs.Backups
import Reconcile.Proofs.CrashSafety
import Reconcile.Proofs.Containment
import Reconcile.Proofs.DryRun
import Reconcile.Proofs.MarkerLines
import Reconcile.Proofs.Resolving
import Reconcile.Proofs.Preserving
import Reconcile.Proofs.Session
import Reconcile.Proofs.SingleApplication
import Reconcile.Proofs.Frame
import Reconcile.Proofs.KeptBackups
import Reconcile.Proofs.RoundTrip
import Reconcile.Proofs.Incoming
import Reconcile.Proofs.MarkerCount
import Reconcile.Proofs.Modification
import Reconcile.Proofs.Dispatch
import Reconcile.Proofs.Caching
import Reconcile.Proofs.Generating
import Reconcile.Proofs.Learning
import Reconcile.Proofs.Leftovers
import Reconcile.Proofs.Exchange
import Reconcile.Proofs.Isolation
import Reconcile.Proofs.RowHistory
import Reconcile.Proofs.StoredTimes
import Reconcile.Proofs.Retrieval
import Reconcile.Proofs.Deciding
import Reconcile.Proofs.UnitScores
import Reconcile.Proofs.Supersession
import Reconcile.Proofs.CountedLines
import Reconcile.Proofs.Succeeding
import Reconcile.Proofs.CleanConflict
import Reconcile.Proofs.LineContent
import Reconcile.Proofs.Filling
import Reconcile.Proofs.SideChoice
import Reconcile.Proofs.Annotation
import Reconcile.Proofs.Merging
import Reconcile.Proofs.Comparison
import Reconcile.Proofs.Matching
import Reconcile.Proofs.Similarity
import Reconcile.Proofs.TimeOrder
import Reconcile.Proofs.Querying
import Reconcile.Proofs.Listing
import Reconcile.Proofs.ShellWords
import Reconcile.Proofs.CommentEnds
import Reconcile.Proofs.Fingerprint
import Reconcile.Proofs.ReadBack
import Reconcile.Proofs.Encoding
