import Minilang.Command.Directory
import Minilang.Main
import Minilang.Node.Equality
import Minilang.Proofs.Reading.Ahead
import Minilang.Proofs.Reading.Success
import Minilang.Proofs.Reading.Expression
import Minilang.Proofs.Reading.Statement
import Minilang.Proofs.Scoping.Replay
import Minilang.Proofs.Scoping.Resolution
import Minilang.Proofs.Typing.Success
import Minilang.Proofs.Typing.Typed
import Minilang.Proofs.Scoping.Compiled
import Minilang.Proofs.Scoping.Earlier
import Minilang.Proofs.Writing.Facing
import Minilang.Proofs.Writing.Rendering
import Minilang.Proofs.Writing.Expression
import Minilang.Proofs.Writing.Statement
import Minilang.Proofs.Typing.Widening
import Minilang.Proofs.Reading.Form
import Minilang.Proofs.Typing.Operands
import Minilang.Proofs.Spelling.Places
import Minilang.Proofs.Layout.Reading
import Minilang.Proofs.Joining.Compiled
import Minilang.Proofs.Scoping.Mirror
import Minilang.Proofs.Discipline.Entry
import Minilang.Proofs.Soundness.Compiled
import Minilang.Proofs.Typing.Written
import Minilang.Proofs.Rejection.Failing
import Minilang.Proofs.Rejection.Refusals
import Minilang.Proofs.Rejection.Expression
import Minilang.Proofs.Rejection.Statement
import Minilang.Proofs.Scoping.Redeclaration
import Minilang.Proofs.Rejection.Finality
import Minilang.Proofs.Rejection.Places
import Minilang.Proofs.Display.Lines
import Minilang.Proofs.Display.Pointing
import Minilang.Proofs.Execution.Machine
import Minilang.Proofs.Execution.Generated
import Minilang.Proofs.Scanning.Operations
import Minilang.Proofs.Scanning.Strings
import Minilang.Proofs.Rejection.Found
import Minilang.Proofs.Graph.Bracketed
import Minilang.Proofs.Graph.Quoting
import Minilang.Proofs.Graph.Identity
import Minilang.Proofs.Graph.Indentation
import Minilang.Proofs.Execution.Checked
import Minilang.Proofs.Execution.Leaves
import Minilang.Proofs.Recursion.Depth
import Minilang.Proofs.Scanning.Words
