import TapeShell.Main
import TapeShell.Proofs.RoundTrip
import TapeShell.Proofs.Substitution
import TapeShell.Proofs.Sequence
import TapeShell.Proofs.Grammar
import TapeShell.Proofs.Reference
import TapeShell.Proofs.Segmentation
import TapeShell.Proofs.Separator
import TapeShell.Proofs.Condition
import TapeShell.Proofs.Precedence
import TapeShell.Path.Components
import TapeShell.Proofs.Tree
import TapeShell.Proofs.Utf8
import TapeShell.Proofs.Spelling
import TapeShell.Proofs.Encoding
import TapeShell.Proofs.JsonText
import TapeShell.Proofs.Payload
import TapeShell.Store.Walk
import TapeShell.Proofs.Walk
import TapeShell.Proofs.Envelope
import TapeShell.Proofs.Backup
import TapeShell.Path.Resolution
import TapeShell.Proofs.Command
import TapeShell.Proofs.Steps
import TapeShell.Proofs.Frame
import TapeShell.Proofs.Directory
import TapeShell.Proofs.Ancestry
import TapeShell.Proofs.Startup
import TapeShell.Proofs.Boundary
import TapeShell.Proofs.Variable
import TapeShell.Proofs.Redirection
import TapeShell.Proofs.Listing
import TapeShell.Proofs.Consistency
import TapeShell.Proofs.Call
import TapeShell.Proofs.Answers
import TapeShell.Proofs.Repetition
import TapeShell.Proofs.Composition
import TapeShell.Proofs.Conservation
import TapeShell.Proofs.Juncture
import TapeShell.Proofs.Literal
import TapeShell.Proofs.Unclosed
import TapeShell.Proofs.ThreeWords
import TapeShell.Proofs.Cursor
import TapeShell.Proofs.Progress
import TapeShell.Proofs.Append
import TapeShell.Proofs.Lines
import TapeShell.Proofs.Handoff
import TapeShell.Proofs.Input
import TapeShell.Proofs.Selection
import TapeShell.Proofs.Piping
import TapeShell.Proofs.Tally
import TapeShell.Proofs.Registration
import TapeShell.Proofs.Arrangement
import TapeShell.Proofs.Normalization
import TapeShell.Proofs.Replacement
