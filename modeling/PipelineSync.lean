import PipelineSync.Dashboard.Board
import PipelineSync.Dashboard.Codec
import PipelineSync.Health.Codec
import PipelineSync.Main
import PipelineSync.Scm.Replay
import PipelineSync.Scm.Scripted
import PipelineSync.Transaction.Program
import PipelineSync.Proofs.Engine.Discarded
import PipelineSync.Proofs.Engine.Unchanged
import PipelineSync.Proofs.Transaction.Commit
import PipelineSync.Proofs.Fragment.Schema
import PipelineSync.Proofs.Fragment.Conversion
import PipelineSync.Proofs.Engine.History
import PipelineSync.Proofs.Transaction.Surroundings
import PipelineSync.Proofs.Merge.Declarations
import PipelineSync.Proofs.Merge.Environments
import PipelineSync.Proofs.Merge.Conflicts
import PipelineSync.Proofs.Engine.Admission
import PipelineSync.Proofs.Fragment.Sections
import PipelineSync.Proofs.Fragment.Together
import PipelineSync.Proofs.Engine.Provenance
import PipelineSync.Proofs.Material.Identity
import PipelineSync.Proofs.Scm.Scrub
import PipelineSync.Proofs.Dashboard.Board
import PipelineSync.Proofs.Record.Interrupted
import PipelineSync.Proofs.Material.Rendering
import PipelineSync.Proofs.Dashboard.Completion
import PipelineSync.Proofs.Merge.Alone
import PipelineSync.Proofs.Fragment.Grammar
import PipelineSync.Proofs.Fragment.Discovery
import PipelineSync.Proofs.Settings.Check
import PipelineSync.Proofs.Tracker.Tokens
import PipelineSync.Proofs.Transaction.Boundaries
import PipelineSync.Proofs.Scm.Kept
