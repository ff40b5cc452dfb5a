import Pipework.Posix.Syntax
import Pipework.Tools.Common

/-! The state of a running shell: its variables, positional parameters, functions, options, traps
and the process it runs as, with the messages it writes. -/

namespace Pipework.Posix

open Pipework.Host Pipework.Tools

/-- The value of a variable: a text, an indexed array (its set elements in increasing order
of index) or an associative array (its keys and values, newest first). -/
inductive Value where
  | text (s : String)
  | indexed (elems : List (Nat × String))
  | assoc (elems : List (String × String))
  deriving Inhabited, BEq

/-- A shell variable: its value (none once declared without one), its attributes, and the
order in which it was made. -/
structure Var where
  value : Option Value := none
  exported : Bool := false
  readonly : Bool := false
  /-- Assignments are evaluated as arithmetic. -/
  integer : Bool := false
  /-- Letters of assigned values are made upper case (`some true`) or lower case. -/
  letterCase : Option Bool := none
  serial : Nat := 0
  deriving Inhabited

namespace Var

def text? (v : Var) : Option String :=
  match v.value with
  | some (.text s) => some s
  | some (.indexed es) => es.lookup 0
  | some (.assoc es) => es.lookup "0"
  | none => none

def isArray (v : Var) : Bool :=
  match v.value with
  | some (.indexed _) | some (.assoc _) => true
  | _ => false

end Var

/-- Why the shell stops running a command before its end. -/
inductive Abort where
  /-- The shell (or the subshell it is in) exits with this status. -/
  | exit (code : Nat)
  /-- bash gives up the complete command it is running, with status 1, and reads the next
  one. -/
  | discard
  deriving Inhabited

def dashOptions : List (String × Option Char) :=
  [("errexit", some 'e'), ("noglob", some 'f'), ("ignoreeof", some 'I'), ("interactive", some 'i'),
   ("monitor", some 'm'), ("noexec", some 'n'), ("stdin", some 's'), ("xtrace", some 'x'),
   ("verbose", some 'v'), ("vi", some 'V'), ("emacs", some 'E'), ("noclobber", some 'C'),
   ("allexport", some 'a'), ("notify", some 'b'), ("nounset", some 'u'), ("privileged", some 'p'),
   ("nolog", none), ("debug", none)]

def bashOptions : List (String × Option Char) :=
  [("allexport", some 'a'), ("braceexpand", some 'B'), ("emacs", none), ("errexit", some 'e'),
   ("errtrace", some 'E'), ("functrace", some 'T'), ("hashall", some 'h'), ("histexpand", some 'H'),
   ("history", none), ("ignoreeof", none), ("interactive-comments", none), ("keyword", some 'k'),
   ("monitor", some 'm'), ("noclobber", some 'C'), ("noexec", some 'n'), ("noglob", some 'f'),
   ("nolog", none), ("notify", some 'b'), ("nounset", some 'u'), ("onecmd", some 't'),
   ("physical", some 'P'), ("pipefail", none), ("posix", none), ("privileged", some 'p'),
   ("verbose", some 'v'), ("vi", none), ("xtrace", some 'x')]

def bashFlagOrder : List Char :=
  "abefhikmnptuvxBCEHPT".toList

def Flavor.options : Flavor → List (String × Option Char)
  | .dash => dashOptions
  | .bash => bashOptions

/-- The state of a running shell. `arg0` is `$0`, which also opens its messages; `rootPid`
is `$$`, the number of the shell that a subshell was made from. `status` is `$?`, which
expansions do not change; `substituted` is the status of the last command substitution, which
a command of assignments only takes as its own. `frames` holds, for each running function,
the bindings its `local` variables shadow; `tested` is set while a command's status is being
tested, which keeps `errexit` from acting. -/
structure Shell where
  flavor : Flavor
  arg0 : String
  params : List String := []
  vars : List (String × Var) := []
  serial : Nat := 0
  status : Nat := 0
  substituted : Nat := 0
  rootPid : Nat
  proc : Proc
  functions : List (String × Cmd) := []
  options : List String := []
  line : Nat := 0
  lastBackground : Option Nat := none
  inSubshell : Bool := false
  /-- The traps set: by condition number (0 for the shell's exit), the command to run; an
  empty command ignores the signal. -/
  traps : List (Nat × String) := []
  umask : Nat := 18
  frames : List (List (String × Option Var)) := []
  loops : Nat := 0
  tested : Bool := false
  hashed : List (String × String) := []
  shopts : List String := []
  pendingSignals : List Nat := []
  lastArg : String := ""
  dirStack : List String := []
  /-- How many sourced files are being read, which `return` may leave. -/
  sourceDepth : Nat := 0
  /-- The conditions whose traps are running, which do not run again inside. -/
  trapping : List Nat := []
  /-- The background commands that ended, with their statuses. -/
  finished : List (Nat × Nat) := []
  /-- Where `getopts` stopped inside a word of options: the value `OPTIND` had then, and
  the position in the word. -/
  optPlace : Option (String × Nat) := none
  /-- Whether the script came from a string given with `-c`. -/
  fromString : Bool := false

/-- Shell actions: they change the shell's state and act on the machine, and may stop early
with the state kept. -/
abbrev Sh := ExceptT Abort (StateT Shell Sys)

/-- What the rest of a compound command should do after one of its commands. -/
inductive Flow where
  | next
  | breaking (levels : Nat)
  | continuing (levels : Nat)
  | returning
  deriving BEq, Inhabited

def liftSys {α : Type} (x : Sys α) : Sh α :=
  ExceptT.lift (StateT.lift x)

def presetNames : List String :=
  ["IFS", "MAIL", "MAILPATH", "PATH", "PS1", "PS2", "PS4", "OPTIND", "LINENO", "TERM", "HISTSIZE"]

def bucketOf (name : String) : Nat :=
  let bytes := name.toUTF8.toList.map UInt8.toNat
  ((bytes.headD 0) * 16 + bytes.foldl (· + ·) 0) % 39

def Value.withText (old : Option Value) (value : String) : Value :=
  match old with
  | some (.indexed es) => .indexed ((0, value) :: es.filter (·.1 != 0) |>.mergeSort fun a b => a.1 ≤ b.1)
  | some (.assoc es) => .assoc (("0", value) :: es.filter (·.1 != "0"))
  | _ => .text value

namespace Shell

def isOn (s : Shell) (name : String) : Bool :=
  s.options.contains name

def setOption (s : Shell) (name : String) (on : Bool) : Shell :=
  let rest := s.options.filter (· != name)
  { s with options := if on then name :: rest else rest }

def var? (s : Shell) (name : String) : Option Var :=
  s.vars.lookup name

def get? (s : Shell) (name : String) : Option String :=
  (s.vars.lookup name).bind Var.text?

def alterVar (s : Shell) (name : String) (change : Var → Var) (make : Var) : Shell :=
  match s.vars.lookup name with
  | some _ => { s with vars := s.vars.map fun (n, w) => if n == name then (n, change w) else (n, w) }
  | none =>
    { s with vars := s.vars ++ [(name, { make with serial := s.serial })], serial := s.serial + 1 }

def setVar (s : Shell) (name value : String) (exported : Bool := false) : Shell :=
  let exported := exported || s.isOn "allexport"
  s.alterVar name (fun v => { v with value := some (Value.withText v.value value), exported := v.exported || exported })
    { value := some (.text value), exported }

def setValue (s : Shell) (name : String) (value : Value) : Shell :=
  let exported := s.isOn "allexport"
  s.alterVar name (fun v => { v with value := some value, exported := v.exported || exported })
    { value := some value, exported }

def exportVar (s : Shell) (name : String) : Shell :=
  s.alterVar name (fun v => { v with exported := true }) { exported := true }

def unsetVar (s : Shell) (name : String) : Shell :=
  { s with vars := s.vars.filter (·.1 != name) }

def environment (s : Shell) : List (String × String) :=
  let exported := s.vars.filterMap fun (n, v) =>
    if v.exported && !v.isArray then v.text?.map fun value => (n, value, v.serial) else none
  let ordered := match s.flavor with
    | .dash => exported.mergeSort fun (a, _, i) (b, _, j) =>
        bucketOf a < bucketOf b || (bucketOf a == bucketOf b && i ≥ j)
    | .bash => exported.mergeSort fun (_, _, i) (_, _, j) => i ≤ j
  ordered.map fun (n, value, _) => (n, value)

def ifs (s : Shell) : String :=
  (s.get? "IFS").getD " \t\n"

def prefixText (s : Shell) : String :=
  match s.flavor with
  | .dash => s.arg0 ++ ": " ++ toString s.line ++ ": "
  | .bash => s.arg0 ++ ": line " ++ toString s.line ++ ": "

def flags (s : Shell) : String :=
  let on := s.flavor.options.filterMap fun (n, c) => if s.isOn n then c else none
  match s.flavor with
  | .dash => String.ofList on
  | .bash => String.ofList (bashFlagOrder.filter on.contains)

def shadow (s : Shell) (name : String) : Shell :=
  match s.frames with
  | frame :: outer =>
    if frame.any (·.1 == name) then s
    else { s with frames := ((name, s.vars.lookup name) :: frame) :: outer }
  | [] => s

def popFrame (s : Shell) : Shell :=
  match s.frames with
  | frame :: outer =>
    let restored := frame.foldl (fun (st : Shell) (name, saved) =>
      match saved with
      | some v =>
        if (st.vars.lookup name).isSome then
          { st with vars := st.vars.map fun (n, w) => if n == name then (n, v) else (n, w) }
        else { st with vars := st.vars ++ [(name, v)] }
      | none => st.unsetVar name) s
    { restored with frames := outer }
  | [] => s

end Shell

def warn (message : String) : Sh Unit := do
  let s ← get
  liftSys (Sys.say s.proc 2 (s.prefixText ++ message ++ "\n"))

def emitTo? (fd : Nat) (bytes : ByteArray) : Sh (Except OsError Unit) := do
  liftSys (Sys.write (← get).proc fd bytes)

def emitTo (fd : Nat) (bytes : ByteArray) : Sh Unit := do
  let _ ← emitTo? fd bytes

def printTo (fd : Nat) (text : String) : Sh Unit :=
  emitTo fd text.toUTF8

def exitWith {α : Type} (code : Nat) : Sh α :=
  throw (Abort.exit code)

def fatal {α : Type} (message : String) (code : Nat := 2) : Sh α := do
  warn message
  exitWith code

def setStatus (n : Nat) : Sh Unit :=
  modify fun s => { s with status := n }

def signalDescription (n : Nat) : String :=
  match n with
  | 1 => "Hangup" | 2 => "Interrupt" | 3 => "Quit" | 4 => "Illegal instruction"
  | 5 => "Trace/breakpoint trap" | 6 => "Aborted" | 7 => "Bus error"
  | 8 => "Floating point exception" | 9 => "Killed" | 10 => "User defined signal 1"
  | 11 => "Segmentation fault" | 12 => "User defined signal 2" | 13 => "Broken pipe"
  | 14 => "Alarm clock" | 15 => "Terminated" | 16 => "Stack fault" | 17 => "Child exited"
  | 18 => "Continued" | 19 => "Stopped (signal)" | 20 => "Stopped" | 21 => "Stopped (tty input)"
  | 22 => "Stopped (tty output)" | 23 => "Urgent I/O condition" | 24 => "CPU time limit exceeded"
  | 25 => "File size limit exceeded" | 26 => "Virtual timer expired"
  | 27 => "Profiling timer expired" | 28 => "Window changed" | 29 => "I/O possible"
  | 30 => "Power failure" | 31 => "Bad system call"
  | n => "Unknown signal " ++ toString n

def noteChild (st : Status) : Sh Nat := do
  match st with
  | .killed signal =>
    if (← get).flavor == .dash && signal != 2 && signal != 13 then
      printTo 2 (signalDescription signal ++ "\n")
  | .exited _ => pure ()
  return st.shellCode

/-- Where a command name is found on the search path: the first directory holding a
regular file of that name; otherwise whether some entry of that name was found but could
not be used. -/
def searchPath (t : FileTree) (here : Place) (pathVar name : String) : Except OsError String :=
  let dirs := pathVar.splitOn ":"
  let rec go (denied : Bool) : List String → Except OsError String
    | [] => .error (if denied then .permissionDenied else .noEntry)
    | dir :: more =>
      let candidate := if dir.isEmpty then name else joinPath dir name
      match t.lookup here candidate with
      | .ok (_, .file _ _) | .ok (_, .program _) => .ok candidate
      | .ok _ => go true more
      | .error .noEntry | .error .notDirectory => go denied more
      | .error _ => go true more
  go false dirs

def defaultSearchPath : String :=
  "/usr/local/sbin:/usr/local/bin:/usr/sbin:/usr/bin:/sbin:/bin"

def execErrorText : OsError → String
  | .noEntry | .notDirectory => "not found"
  | e => e.description

def openErrorText : OsError → String
  | .noEntry | .notDirectory => "No such file"
  | e => e.description

def createErrorText : OsError → String
  | .noEntry | .notDirectory => "Directory nonexistent"
  | e => e.description

end Pipework.Posix
