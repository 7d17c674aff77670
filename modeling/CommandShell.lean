import CommandShell.Line.Quoting
import CommandShell.Main
import CommandShell.Request
import CommandShell.Proofs.Line.Parse
import CommandShell.Proofs.Line.Quoted
import CommandShell.Proofs.Line.Balance
import CommandShell.Proofs.Line.Rejoin
import CommandShell.Proofs.Line.Continuation
import CommandShell.Proofs.Line.Symmetry
import CommandShell.Proofs.Line.Superfluous
import CommandShell.Proofs.Line.Partway
import CommandShell.Proofs.Command.Run
import CommandShell.Proofs.Command.Found
import CommandShell.Proofs.Command.SearchOrder
import CommandShell.Proofs.Command.SearchPath
import CommandShell.Proofs.Command.Endings
import CommandShell.Proofs.Interpret
import CommandShell.Proofs.Outcome
import CommandShell.Proofs.Conduct
import CommandShell.Proofs.Place
import CommandShell.Proofs.Conversation
import CommandShell.Proofs.Status
import CommandShell.Proofs.Trace
import CommandShell.Proofs.Omission
import CommandShell.Proofs.Options
import CommandShell.Proofs.Program
