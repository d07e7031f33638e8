import SsaEdit.Builder.Session
import SsaEdit.CommandLine.Run
import SsaEdit.Listing.Printer
import SsaEdit.Listing.Reader
import SsaEdit.Lowering
import SsaEdit.Main
import SsaEdit.Number.Entry
import SsaEdit.Samples
import SsaEdit.Proofs.Canvas.Edits
import SsaEdit.Proofs.Canvas.Places
import SsaEdit.Proofs.Node.Rewriting
import SsaEdit.Proofs.Session.Calls
import SsaEdit.Proofs.Session.Finish
import SsaEdit.Proofs.Session.References
import SsaEdit.Proofs.Canvas.Runs
import SsaEdit.Proofs.Flow.Reachability
import SsaEdit.Proofs.Flow.Route
import SsaEdit.Proofs.Session.OneShot
import SsaEdit.Proofs.Session.StraightLine
import SsaEdit.Proofs.Session.Defects
import SsaEdit.Proofs.Text.Literal
import SsaEdit.Proofs.Number.Shortest
import SsaEdit.Proofs.Listing.Lexing
import SsaEdit.Proofs.Listing.Tokens
import SsaEdit.Proofs.Listing.Scan
import SsaEdit.Proofs.Listing.Printable
import SsaEdit.Proofs.Listing.Items
import SsaEdit.Proofs.Listing.RoundTrip
import SsaEdit.Proofs.Listing.Listed
import SsaEdit.Proofs.Listing.Lexed
import SsaEdit.Proofs.Listing.Reformat
import SsaEdit.Proofs.Canvas.Bookkeeping
import SsaEdit.Proofs.Canvas.Refinement
import SsaEdit.Proofs.Validation.Dangling
import SsaEdit.Proofs.Session.Reachable
import SsaEdit.Proofs.Session.Strict
import SsaEdit.Proofs.Session.Embedding
import SsaEdit.Proofs.Session.LifeCycle
import SsaEdit.Proofs.Validation.Alike
import SsaEdit.Proofs.CommandLine.Examined
import SsaEdit.Proofs.CommandLine.Reformatted
import SsaEdit.Proofs.Listing.Lossless
import SsaEdit.Proofs.CommandLine.Refused
import SsaEdit.Proofs.Node.Relabelled
import SsaEdit.Proofs.Canvas.Permanence
import SsaEdit.Proofs.Canvas.Compaction
import SsaEdit.Proofs.Session.Unedited
import SsaEdit.Proofs.Session.Retry
import SsaEdit.Proofs.Canvas.Atomicity
import SsaEdit.Proofs.Canvas.Idempotence
import SsaEdit.Proofs.Canvas.Renaming
import SsaEdit.Proofs.Canvas.Commutation
import SsaEdit.Proofs.Session.Cuts
import SsaEdit.Proofs.Flow.WorkList
import SsaEdit.Proofs.Flow.SingleEntry
import SsaEdit.Proofs.Validation.Policies
import SsaEdit.Proofs.Listing.Pieces
import SsaEdit.Proofs.Listing.Derivation
import SsaEdit.Proofs.Listing.Rules
import SsaEdit.Proofs.Listing.Layout
import SsaEdit.Proofs.Node.Walks
import SsaEdit.Proofs.Listing.Literals
import SsaEdit.Proofs.Listing.Boundaries
import SsaEdit.Proofs.Listing.Unplaced
import SsaEdit.Proofs.Listing.Spacing
import SsaEdit.Proofs.CommandLine.Lines
import SsaEdit.Proofs.CommandLine.Several
