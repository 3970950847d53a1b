import CommandShell.Bytes
import CommandShell.Fault
import CommandShell.Environment
import CommandShell.Grapheme.Table
import CommandShell.Grapheme
import CommandShell.Line
import CommandShell.Word
import CommandShell.Program
import CommandShell.Script.Statement
import CommandShell.Script.Source
import CommandShell.Script.Word
import CommandShell.Script.Grammar
import CommandShell.Script.Pattern
import CommandShell.Script.Arithmetic
import CommandShell.Pipeline
import CommandShell.Completion
import CommandShell.Path
import CommandShell.Tree
import CommandShell.Tree.Lookup
import CommandShell.Tree.Edit
import CommandShell.Process
import CommandShell.World
import CommandShell.Sink
import CommandShell.Script.Signal
import CommandShell.Script.Job
import CommandShell.Script.Limit
import CommandShell.Script.Shell
import CommandShell.Script.Real
import CommandShell.Script.Print
import CommandShell.Script.Field
import CommandShell.Script.Expansion
import CommandShell.Script.Condition
import CommandShell.Script.Builtin.Arguments
import CommandShell.Script.Builtin.Variable
import CommandShell.Script.Builtin.Alias
import CommandShell.Script.Builtin.Directory
import CommandShell.Script.Builtin.Job
import CommandShell.Script.Search
import CommandShell.Script.Builtin.Name
import CommandShell.Script.Builtin.Option
import CommandShell.Script.Builtin.Resource
import CommandShell.Script.Builtin.Signal
import CommandShell.Script.Builtin.Text
import CommandShell.Script.Builtin
import CommandShell.Session
import CommandShell.Builtin
import CommandShell.Search
import CommandShell.Builtin.Arguments
import CommandShell.Builtin.Run
import CommandShell.Program.Tool
import CommandShell.Program.Launch
import CommandShell.Script.Line
import CommandShell.Script.Part
import CommandShell.Script.Start
import CommandShell.Script.Process
import CommandShell.Script.Redirection
import CommandShell.Script.Command
import CommandShell.Script.Execution
import CommandShell.Run.Open
import CommandShell.Run.Start
import CommandShell.Run.Finish
import CommandShell.Run
import CommandShell.Course
import CommandShell.Repl
import CommandShell.Completion.Tab
import CommandShell.Scratch
import CommandShell.Main
import CommandShell.Proofs.Quoting
import CommandShell.Proofs.Grammar
import CommandShell.Proofs.Opening
import CommandShell.Proofs.Start
import CommandShell.Proofs.Refusal
import CommandShell.Proofs.Delivery
import CommandShell.Proofs.Stage
import CommandShell.Proofs.Composition
import CommandShell.Proofs.Splitting
import CommandShell.Proofs.CommandName
import CommandShell.Proofs.Writing
import CommandShell.Proofs.Frame
import CommandShell.Proofs.Isolation
import CommandShell.Proofs.Directory
import CommandShell.Proofs.Requests
import CommandShell.Proofs.CommonStart
import CommandShell.Proofs.Text
import CommandShell.Proofs.Entry
import CommandShell.Proofs.Candidates
import CommandShell.Proofs.Growth
import CommandShell.Proofs.Leaving
import CommandShell.Proofs.Touching
import CommandShell.Proofs.Abandoning
import CommandShell.Proofs.Preservation
import CommandShell.Proofs.Appending
import CommandShell.Proofs.Input
import CommandShell.Proofs.Extension
import CommandShell.Proofs.Home
import CommandShell.Proofs.Launching
import CommandShell.Proofs.Reaping
import CommandShell.Proofs.Rejoining
import CommandShell.Proofs.Concatenation
import CommandShell.Proofs.Resolution
import CommandShell.Proofs.Accepting
import CommandShell.Proofs.Echo
