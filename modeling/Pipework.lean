import Pipework.Text.Blank
import Pipework.Text.Utf8
import Pipework.Text.Toml
import Pipework.Shell.Span
import Pipework.Shell.Command
import Pipework.Shell.Token
import Pipework.Shell.Lexer
import Pipework.Shell.Parser
import Pipework.Shell.Render
import Pipework.Shell.Outline
import Pipework.Tcl.Words
import Pipework.Tcl.Exec
import Pipework.Host.OsError
import Pipework.Run.Error
import Pipework.Run.ExitCode
import Pipework.Run.StreamPlan
import Pipework.Run.Record
import Pipework.Run.Verdict
import Pipework.Run.TestFile
import Pipework.Run.Config
import Pipework.Host.Path
import Pipework.Host.Feed
import Pipework.Host.FileTree
import Pipework.Host.World
import Pipework.Tools.Common
import Pipework.Tools.Manual
import Pipework.Tools.Basic
import Pipework.Tools.Printf
import Pipework.Tools.Text
import Pipework.Tools.Sort
import Pipework.Tools.Tr
import Pipework.Tools.Files
import Pipework.Tools.Lines
import Pipework.Tools.Names
import Pipework.Tools.Sequence
import Pipework.Posix.Syntax
import Pipework.Posix.Lex
import Pipework.Posix.Parse
import Pipework.Posix.Arith
import Pipework.Posix.Pattern
import Pipework.Posix.State
import Pipework.Posix.Expand
import Pipework.Posix.Builtin
import Pipework.Posix.Quote
import Pipework.Posix.Brace
import Pipework.Posix.Builtin.Test
import Pipework.Posix.Builtin.Signal
import Pipework.Posix.Builtin.Vars
import Pipework.Posix.Builtin.Getopts
import Pipework.Posix.Printf
import Pipework.Posix.Redirect
import Pipework.Posix.Shell
import Pipework.Posix.Program
import Pipework.Machine.Exec
import Pipework.Machine.Sandbox
import Pipework.Run.Pipeline
import Pipework.Run.Strategy
import Pipework.Run.Runner
import Pipework.Run.OnMachine
import Pipework.Text.Jaro
import Pipework.Cli.Interface
import Pipework.Cli.Args
import Pipework.Cli.Report
import Pipework.Cli.Session
import Pipework.Cli.OnMachine
import Pipework.Main
import Pipework.Proofs.Pipefail
import Pipework.Proofs.Shell.Grammar
import Pipework.Proofs.Shell.Parsing
import Pipework.Proofs.Shell.Lexing
import Pipework.Proofs.Shell.RoundTrip
import Pipework.Proofs.Shell.Quoting
import Pipework.Proofs.Shell.ParseErrors
import Pipework.Proofs.Shell.TokenText
import Pipework.Proofs.Shell.Segments
import Pipework.Proofs.Shell.Descriptors
import Pipework.Proofs.Shell.Diagnostics
import Pipework.Proofs.Shell.WindowsEscapes
import Pipework.Proofs.Tcl.ExecWords
import Pipework.Proofs.Tcl.Groups
import Pipework.Proofs.Run.Sequencing
import Pipework.Proofs.Run.Ensures
import Pipework.Proofs.Run.Recording
import Pipework.Proofs.Run.Transcript
import Pipework.Proofs.Run.Legacy
import Pipework.Proofs.Run.Redirection
import Pipework.Proofs.Run.LegacyTrees
import Pipework.Proofs.Run.Allocation
import Pipework.Proofs.Run.Wiring
import Pipework.Proofs.Run.ScriptLines
import Pipework.Proofs.Run.SearchPath
import Pipework.Proofs.Run.Triples
import Pipework.Proofs.Run.TemporaryFiles
