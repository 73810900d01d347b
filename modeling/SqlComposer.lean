import SqlComposer.Text.Quoted
import SqlComposer.Identifier
import SqlComposer.Dialect.Known
import SqlComposer.Dialect.Registry
import SqlComposer.Display
import SqlComposer.Render
import SqlComposer.Log
import SqlComposer.Script.Logging
import SqlComposer.Value.Equality
import SqlComposer.Proofs.Placeholders
import SqlComposer.Proofs.BoundValues
import SqlComposer.Proofs.Secrecy
import SqlComposer.Proofs.Refusal
import SqlComposer.Proofs.Meaning
import SqlComposer.Proofs.Embedding
import SqlComposer.Proofs.Trees
import SqlComposer.Proofs.Agreement
import SqlComposer.Proofs.Settings
import SqlComposer.Proofs.Completeness
import SqlComposer.Proofs.Compaction
import SqlComposer.Proofs.Counts
import SqlComposer.Proofs.Scanning
import SqlComposer.Proofs.Readback
import SqlComposer.Proofs.Aliases
import SqlComposer.Proofs.Orderings
import SqlComposer.Proofs.Requoting
import SqlComposer.Proofs.QuotePairs
import SqlComposer.Proofs.Grouping
import SqlComposer.Proofs.Cells
import SqlComposer.Proofs.Fragments
import SqlComposer.Proofs.TableNames
import SqlComposer.Proofs.JoinKinds
import SqlComposer.Proofs.EitherOrder
import SqlComposer.Proofs.Restoring
import SqlComposer.Proofs.LoggerTree
