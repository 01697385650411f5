import Abacus.FileTree.Growth
import Abacus.History.Read
import Abacus.Main
import Abacus.Proofs.Decimal.Layout
import Abacus.Proofs.History.Rendering
import Abacus.Proofs.History.RoundTrip
import Abacus.Proofs.Command.Acts
import Abacus.Proofs.Entry
import Abacus.Proofs.Session.Lines
import Abacus.Proofs.Session.Reply
import Abacus.Proofs.Session.Transcript
import Abacus.Proofs.FileTree.Creation
import Abacus.Proofs.Session.Saved
import Abacus.Proofs.Session.Limited
import Abacus.Proofs.Calculator
import Abacus.Proofs.FileTree.Saves
import Abacus.Proofs.Table.Ends
import Abacus.Proofs.History.Recovery
import Abacus.Proofs.History.Columns
import Abacus.Proofs.History.Sheet
import Abacus.Proofs.History.BrokenStream
import Abacus.Proofs.History.Header
import Abacus.Proofs.Command.Runs
import Abacus.Proofs.Binary64.Midpoint
import Abacus.Proofs.Binary64.Nearest
import Abacus.Proofs.Decimal.Written
import Abacus.Proofs.Decimal.Operand
import Abacus.Proofs.Grammar
import Abacus.Proofs.Command.Reuse
import Abacus.Proofs.FileTree.Footprint
import Abacus.Proofs.Session.Footprint
import Abacus.Proofs.Session.Isolation
import Abacus.Proofs.Text.Lossy
import Abacus.Proofs.Session.Replay
import Abacus.Proofs.Session.Endings
import Abacus.Proofs.Decimal.Significant
import Abacus.Proofs.Text.WellFormed
import Abacus.Proofs.Session.Damaged
import Abacus.Proofs.Session.Decoded
import Abacus.Proofs.Timestamp
import Abacus.Proofs.FileTree.Collision
import Abacus.Proofs.Table.Lines
import Abacus.Proofs.History.Lines
import Abacus.Proofs.Command.Names
import Abacus.Proofs.History.Plain
import Abacus.Proofs.History.Equality
import Abacus.Proofs.Program.LogLevel
import Abacus.Proofs.Session.Failures
import Abacus.Proofs.Session.ErrorReplies
import Abacus.Proofs.Command.Menu
