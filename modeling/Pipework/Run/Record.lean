import Pipework.Shell.Command
import Pipework.Text.Utf8

/-! The transcript of a script run in process: one record per simple command that ran, in the order
they ran, with its output, its errors and its exit code. -/

namespace Pipework.Run

open Pipework.Shell

/-- What one simple command did. -/
structure Record where
  command : SimpleCommand
  output : ByteArray
  errors : ByteArray
  code : Int
  deriving Inhabited

/-- The transcript entry of the record numbered `i`: the command's quoted words, its result,
and its output and errors, each decoded and followed by a blank line. -/
def Record.render (i : Nat) (r : Record) : String :=
  let n := toString i
  "Command " ++ n ++ ": " ++ r.command.quotedArgs ++ "\n" ++
    "Command " ++ n ++ " Result: " ++ toString r.code ++ "\n" ++
    "Command " ++ n ++ " Output:\n" ++ Pipework.Text.decodeLossy r.output ++ "\n\n" ++
    "Command " ++ n ++ " Stderr:\n" ++ Pipework.Text.decodeLossy r.errors ++ "\n\n"

def renderFrom (i : Nat) : List Record → String
  | [] => ""
  | r :: rs => r.render i ++ renderFrom (i + 1) rs

def transcript (records : List Record) : String :=
  renderFrom 0 records

end Pipework.Run
