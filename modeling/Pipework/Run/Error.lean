import Pipework.Shell.Render
import Pipework.Host.OsError

/-! Errors of running a script: a program that cannot be found, a redirection or shell feature that
is not supported, an interrupt from the keyboard, and files or programs the system refuses. -/

namespace Pipework.Run

open Pipework.Shell Pipework.Host

/-- Why running a script stopped. -/
inductive ExecError where
  | commandNotFound (command : SimpleCommand)
  | unsupportedRedirect (what : String)
  | unsupported (feature : String)
  | interrupted (command : String)
  | redirect (path : String) (cause : OsError)
  | spawn (command : String) (cause : OsError)
  | io (context : String) (cause : OsError)
  | render (e : RenderError)
  deriving Repr, Inhabited

def ExecError.message : ExecError → String
  | .commandNotFound command => "'" ++ command.program ++ "': command not found"
  | .unsupportedRedirect what => "unsupported redirect: " ++ what
  | .unsupported feature => "unsupported shell feature: " ++ feature
  | .interrupted command => "interrupted: '" ++ command ++ "' was killed by SIGINT"
  | .redirect path cause => "failed to open redirect target " ++ path ++ ": " ++ cause.message
  | .spawn command cause => "failed to spawn '" ++ command ++ "': " ++ cause.message
  | .io context cause => context ++ ": " ++ cause.message
  | .render e => "cannot render script for the external shell: " ++ e.message

end Pipework.Run
