import Pipework.Posix.Program
import Pipework.Tools.Basic
import Pipework.Tools.Printf
import Pipework.Tools.Text
import Pipework.Tools.Sort
import Pipework.Tools.Tr
import Pipework.Tools.Files
import Pipework.Tools.Names
import Pipework.Tools.Lines
import Pipework.Tools.Sequence

/-! The programs installed on the machine and how a process runs one. -/

namespace Pipework.Machine

open Pipework.Host Pipework.Tools Pipework.Posix

def programOf : String → Option Program
  | "echo" => some echoProgram
  | "true" => some trueProgram
  | "false" => some falseProgram
  | "yes" => some yesProgram
  | "pwd" => some pwdProgram
  | "sleep" => some sleepProgram
  | "env" => some envProgram
  | "printf" => some printfProgram
  | "cat" => some catProgram
  | "head" => some headProgram
  | "tail" => some tailProgram
  | "wc" => some wcProgram
  | "tee" => some teeProgram
  | "uniq" => some uniqProgram
  | "tac" => some tacProgram
  | "rev" => some revProgram
  | "sort" => some sortProgram
  | "tr" => some trProgram
  | "touch" => some touchProgram
  | "mkdir" => some mkdirProgram
  | "rmdir" => some rmdirProgram
  | "rm" => some rmProgram
  | "cp" => some cpProgram
  | "mv" => some mvProgram
  | "ls" => some lsProgram
  | "seq" => some seqProgram
  | "basename" => some basenameProgram
  | "dirname" => some dirnameProgram
  | "sh" | "dash" => some (shellProgram .dash)
  | "bash" => some (shellProgram .bash)
  | _ => none

def installedPrograms : List String :=
  ["basename", "bash", "cat", "cp", "dash", "dirname", "echo", "env", "false", "head", "ls",
   "mkdir", "mv", "printf", "pwd", "rev", "rm", "rmdir", "seq", "sh", "sleep", "sort", "tac",
   "tail", "tee", "touch", "tr", "true", "uniq", "wc", "yes"]

/-- The interpreter line of a script: after `#!` and any blanks, the interpreter's path, and
the rest of the line without surrounding blanks as one optional argument. -/
def interpreterLine (data : ByteArray) : Option (String × Option String) :=
  if data.size ≥ 2 && data.get! 0 == 35 && data.get! 1 == 33 then
    let line := (Pipework.Text.decodeLossy (data.extract 2 (min data.size 258))).toList.takeWhile (· != '\n')
    let blank (c : Char) := c == ' ' || c == '\t'
    let cs := line.dropWhile blank
    let interp := cs.takeWhile (fun c => !blank c)
    let rest := ((cs.drop interp.length).dropWhile blank).reverse.dropWhile blank |>.reverse
    if interp.isEmpty then none
    else some (String.ofList interp, if rest.isEmpty then none else some (String.ofList rest))
  else none

def launchDepth : Nat := 64

/-- What running the file at `path` comes to: the installed program that runs in the end
and the arguments it gets, or why the system refuses. An interpreter line hands the script
to its interpreter; how deep that may nest is bounded by `fuel`. -/
def resolveExec : Nat → FileTree → Place → String → List String → Except OsError (String × List String)
  | 0, _, _, _, _ => .error .noEntry
  | fuel + 1, t, here, path, argv =>
    match t.lookup here path with
    | .error e => .error e
    | .ok (_, .program name) => if (programOf name).isSome then .ok (name, argv) else .error .execFormat
    | .ok (_, .file data executable) =>
      if !executable then .error .permissionDenied
      else match interpreterLine data with
        | some (interp, arg) => resolveExec fuel t here interp (interp :: arg.toList ++ path :: argv.drop 1)
        | none => .error .execFormat
    | .ok _ => .error .permissionDenied

/-- Runs the file at `path` as process `p` (which keeps its number) until it ends. How
deep programs may start programs is bounded by `fuel`. -/
def launch : Nat → Launch
  | 0 => fun _ _ => pure (.error .noEntry)
  | fuel + 1 => fun path p => do
    match resolveExec launchDepth (← Sys.tree) p.here path p.argv with
    | .error e => return .error e
    | .ok (name, argv) =>
      match programOf name with
      | some program =>
        let q := { p with argv }
        return .ok (← Sys.runToEnd q (program (launch fuel) q))
      | none => return .error .execFormat

end Pipework.Machine
