import Pipework.Posix.Parse
import Pipework.Posix.Redirect
import Pipework.Posix.Printf
import Pipework.Posix.Builtin.Test
import Pipework.Posix.Builtin.Signal
import Pipework.Posix.Builtin.Vars
import Pipework.Posix.Builtin.Getopts
import Pipework.Text.Utf8

/-! The shell itself: it reads a script one complete command at a time and runs each before reading
the next, so a syntax error stops it only where it is reached. -/

namespace Pipework.Posix

open Pipework.Host Pipework.Tools

def specialBuiltins : List String :=
  [":", ".", "break", "continue", "eval", "exec", "exit", "export", "readonly", "return",
   "set", "shift", "times", "trap", "unset"]

def dashBuiltins : List String :=
  ["echo", "printf", "test", "[", "true", "false", "cd", "pwd", "read", "kill", "wait",
   "command", "type", "umask", "alias", "unalias", "getopts", "hash", "jobs", "local",
   "ulimit", "fg", "bg"]

def bashOnlyBuiltins : List String :=
  ["source", "declare", "typeset", "let", "shopt", "builtin", "caller", "dirs", "pushd", "popd",
   "disown", "enable", "help", "history", "logout", "mapfile", "readarray", "suspend", "compgen",
   "complete", "compopt", "bind", "fc"]

def Flavor.isBuiltin (flavor : Flavor) (name : String) : Bool :=
  specialBuiltins.contains name || dashBuiltins.contains name ||
    (flavor == .bash && bashOnlyBuiltins.contains name)

def Flavor.keywords (flavor : Flavor) : List String :=
  reservedWords ++ (if flavor == .bash then bashReservedWords else [])

def withTested {α : Type} (x : Sh α) : Sh α := do
  let old := (← get).tested
  modify fun s => { s with tested := true }
  let r ← tryCatch x fun e => do
    modify fun s => { s with tested := old }
    throw e
  modify fun s => { s with tested := old }
  return r

def negateStatus : Sh Unit :=
  modify fun s => { s with status := if s.status == 0 then 1 else 0 }

def receiveSignals : Sh Unit := do
  let s ← get
  let w ← liftSys get
  let mine := w.signals.filter (·.1 == s.proc.pid)
  if mine.isEmpty then return
  liftSys (modify fun w => { w with signals := w.signals.filter (·.1 != s.proc.pid) })
  for (_, signal) in mine do
    if (s.traps.lookup signal).isSome then
      modify fun s => { s with pendingSignals := s.pendingSignals ++ [signal] }
    else liftSys (throw (Halt.signal signal))

def traceWord (flavor : Flavor) (w : String) : String :=
  match flavor with
  | .dash => w
  | .bash =>
    if w.isEmpty then "''" else if needsAnsiQuote w then ansiQuote w
    else if hasShellMetas w then bashQuote w else w

def traceAssign (flavor : Flavor) (item : DeclItem) : String :=
  let value := match item.value with
    | some (.text t) => traceWord flavor t
    | some (.list _) => "(...)"
    | none => ""
  item.name ++ (match item.index with
    | some i => "[" ++ i ++ "]"
    | none => "") ++ (if item.append then "+=" else "=") ++ value

def traceCommand (items : List DeclItem) (fields : List String) : Sh Unit := do
  let s ← get
  if !s.isOn "xtrace" then return
  let ps4 := (s.get? "PS4").getD "+ "
  match s.flavor with
  | .dash =>
    let parts := items.map (traceAssign .dash) ++ fields
    printTo 2 (ps4 ++ " ".intercalate parts ++ "\n")
  | .bash =>
    for item in items do
      printTo 2 (ps4 ++ traceAssign .bash item ++ "\n")
    if !fields.isEmpty then
      printTo 2 (ps4 ++ " ".intercalate (fields.map (traceWord .bash)) ++ "\n")

def declItemOfAssign (run : String → Sh String) (a : Assign) : Sh DeclItem := do
  let index ← match a.index with
    | some w => some <$> expandText run w
    | none => pure none
  let value ← match a.value with
    | .scalar w => DeclValue.text <$> expandValue run w
    | .list items => pure (DeclValue.list items)
  return { name := a.name, index, append := a.append, value := some value }

def assignItem (run : String → Sh String) (item : DeclItem) : Sh Bool :=
  match item.value with
  | some (.text t) => assignText item.name item.index item.append t
  | some (.list items) => assignList run item.name item.append items
  | none => pure true

def expandCommandWords (run : String → Sh String) (words : List Word) :
    Sh (List String × Option (List DeclArg)) := do
  let s ← get
  match s.flavor, words with
  | .bash, [.lit n] :: rest =>
    if declarationCommands.contains n then
      let mut args : Array DeclArg := #[]
      for w in rest do
        match assignmentOf true w with
        | some a => args := args.push (.assign (← declItemOfAssign run a))
        | none =>
          for f in ← expandFields run [w] do
            args := args.push (.word f)
      let texts := args.toList.map fun
        | .word t => t
        | .assign item => traceAssign .dash item
      return (n :: texts, some args.toList)
    else return (← expandFields run words, none)
  | _, _ => return (← expandFields run words, none)

def restoreVars (saved : List (String × Option Var)) : Sh Unit :=
  for (name, v) in saved do
    match v with
    | some var =>
      modify fun s =>
        if (s.var? name).isSome then { s with vars := s.vars.map fun (n, w) => if n == name then (n, var) else (n, w) }
        else { s with vars := s.vars ++ [(name, var)] }
    | none => modify fun s => s.unsetVar name

def withTemporary {α : Type} (run : String → Sh String) (items : List DeclItem) (x : Sh α) : Sh α := do
  if items.isEmpty then return ← x
  let s ← get
  let saved := items.map fun i => (i.name, s.var? i.name)
  for i in items do
    let _ ← assignItem run i
    modify fun s => s.alterVar i.name (fun v => { v with exported := true }) { exported := true }
  let r ← tryCatch x fun e => do
    restoreVars saved
    throw e
  restoreVars saved
  return r

def touchedFds (redirs : List Redir) : List Nat :=
  redirs.flatMap fun r =>
    match r.op with
    | .both | .bothAppend => [1, 2]
    | op => [r.fd.getD op.defaultFd]

def restoreTouched (saved : List (Nat × Nat)) (touched : List Nat) : Sh Unit :=
  modify fun s =>
    let fds := touched.foldl (fun fds fd =>
      match saved.lookup fd with
      | some d => (fd, d) :: fds.filter (·.1 != fd)
      | none => fds.filter (·.1 != fd)) s.proc.fds
    { s with proc := { s.proc with fds } }

/-- How a command name is found. -/
inductive Found where
  | keyword
  | function
  | special
  | builtin
  | file (path : String) (hashed : Bool)

/-- Where a command name is found, as `type` and `command -v` look: the Almquist shell
looks at special builtins before functions, bash at functions before builtins. A file found
on the search path is remembered. -/
def findCommand (name : String) : Sh (Option Found) := do
  let s ← get
  if s.flavor.keywords.contains name then return some .keyword
  let isFunction := (s.functions.lookup name).isSome
  match s.flavor with
  | .dash =>
    if specialBuiltins.contains name then return some .special
    if isFunction then return some .function
    if dashBuiltins.contains name then return some .builtin
  | .bash =>
    if isFunction then return some .function
    if s.flavor.isBuiltin name then return some .builtin
  let t ← liftSys Sys.tree
  if name.contains '/' then
    match t.lookup s.proc.here name with
    | .ok (_, .file _ _) | .ok (_, .program _) => return some (.file name false)
    | _ => return none
  let hashed := s.hashed.lookup name
  match hashed with
  | some path => return some (.file path true)
  | none =>
    match searchPath t s.proc.here ((s.get? "PATH").getD "") name with
    | .ok path =>
      modify fun s => { s with hashed := (name, path) :: s.hashed.filter (·.1 != name) }
      return some (.file path false)
    | .error _ => return none

def describeFound (flavor : Flavor) (name : String) : Found → String
  | .keyword => name ++ " is a shell keyword"
  | .function => name ++ (if flavor == .bash then " is a function" else " is a shell function")
  | .special => name ++ (if flavor == .bash then " is a shell builtin" else " is a special shell builtin")
  | .builtin => name ++ " is a shell builtin"
  | .file path hashed =>
    if hashed then
      if flavor == .bash then name ++ " is hashed (" ++ path ++ ")" else name ++ " is a tracked alias for " ++ path
    else name ++ " is " ++ path

def foundKind : Found → String
  | .keyword => "keyword"
  | .function => "function"
  | .special | .builtin => "builtin"
  | .file _ _ => "file"

def typeBuiltin (args : List String) : Sh Nat := do
  let s ← get
  let (kindOnly, names) := match args with
    | "-t" :: rest => (true, rest)
    | rest => (false, dropDashes rest)
  let mut status := 0
  for n in names do
    match ← findCommand n with
    | some f =>
      printTo 1 ((if kindOnly then foundKind f else describeFound s.flavor n f) ++ "\n")
    | none =>
      match s.flavor with
      | .dash =>
        printTo 1 (n ++ ": not found\n")
        status := 127
      | .bash =>
        if !kindOnly then warnIn "type" (n ++ ": not found")
        status := 1
  return status

def commandDescribe (verbose : Bool) (names : List String) : Sh Nat := do
  let s ← get
  let names := if s.flavor == .dash then names.take 1 else names
  let mut any := false
  let mut missing := false
  for n in names do
    match ← findCommand n with
    | some f =>
      any := true
      if verbose then printTo 1 (describeFound s.flavor n f ++ "\n")
      else
        match f with
        | .file path _ => printTo 1 (path ++ "\n")
        | _ => printTo 1 (n ++ "\n")
    | none =>
      missing := true
      if verbose then
        match s.flavor with
        | .dash => printTo 1 (n ++ ": not found\n")
        | .bash => warnIn "command" (n ++ ": not found")
  match s.flavor with
  | .dash => return (if missing then 127 else 0)
  | .bash => return (if any || names.isEmpty then 0 else 1)

def bashPrintfBuiltin (args : List String) : Sh Nat := do
  let s ← get
  match printfRequest args with
  | .error message =>
    warnIn "printf" message
    liftSys (Sys.say s.proc 2 (printfUsage ++ "\n"))
    return 2
  | .ok (_, none) =>
    liftSys (Sys.say s.proc 2 (printfUsage ++ "\n"))
    return 2
  | .ok (var, some (format, rest)) =>
    if let some v := var then
      if !isName (declItemOf v).name then
        notIdentifier "printf" v
        return 2
    let (o, status) := printfRounds format.toList (rest.length + 1) rest {}
    let mut captured : ByteArray := .empty
    for c in o.chunks do
      match c with
      | .out bytes =>
        if var.isSome then captured := captured ++ bytes else emitTo 1 bytes
      | .message m => warnIn "printf" m
    if let some v := var then
      let item := declItemOf v
      let _ ← assignText item.name item.index false (Pipework.Text.decodeLossy captured)
    return status

def printfBuiltin (args : List String) : Sh Nat := do
  let s ← get
  match s.flavor with
  | .dash => runTool (printfWith .builtin) ((s.prefixText ++ "printf") :: args)
  | .bash => bashPrintfBuiltin args

def waitBuiltin (args : List String) : Sh Nat := do
  let s ← get
  match args.getLast? with
  | none => return 0
  | some text =>
    match text.toNat? with
    | some pid =>
      match s.finished.lookup pid with
      | some code => return code
      | none =>
        if s.flavor == .bash then warnIn "wait" ("pid " ++ text ++ " is not a child of this shell")
        return 127
    | none =>
      if s.flavor == .bash then
        warnIn "wait" ("`" ++ text ++ "': not a pid or valid job spec")
        return 2
      return 127

def pipelineStatus (pipefail : Bool) (codes : List Nat) : Nat :=
  if pipefail then (codes.reverse.find? (· != 0)).getD 0 else codes.getLast?.getD 0

def lineOf (text : String) (n : Nat) : String :=
  ((text.splitOn "\n")[n - 1]?).getD ""

def reportSyntax (e : SynErr) (text : String) (endLine : Nat) : Sh Unit := do
  let s ← get
  match s.flavor with
  | .dash =>
    printTo 2 (s.arg0 ++ ": " ++ toString e.line ++ ": Syntax error: " ++ e.issue.dashText ++ "\n")
  | .bash =>
    let start := s.arg0 ++ ": " ++ (if s.fromString then "-c: " else "")
    let lineAt (n : Nat) := start ++ "line " ++ toString n ++ ": "
    match e.issue with
    | .unexpected .eof _ => printTo 2 (lineAt e.line ++ "syntax error: unexpected end of file\n")
    | .unexpected tok _ =>
      printTo 2 (lineAt e.line ++ "syntax error near unexpected token `" ++ tok.text ++ "'\n")
      printTo 2 (lineAt e.line ++ "`" ++ lineOf text e.line ++ "'\n")
    | .unterminatedQuote q =>
      printTo 2 (lineAt e.line ++ "unexpected EOF while looking for matching `" ++ String.singleton q ++ "'\n")
      printTo 2 (lineAt endLine ++ "syntax error: unexpected end of file\n")
    | issue => printTo 2 (lineAt e.line ++ "syntax error: " ++ issue.dashText ++ "\n")

def bashExecError (name : String) (e : OsError) : String :=
  match e with
  | .noEntry => if name.contains '/' then name ++ ": No such file or directory" else name ++ ": command not found"
  | e => name ++ ": " ++ e.description

/-- Runs a command found on the search path, as a child, or in place of the shell when
`exec` is set. A file the system cannot run for its format is run as a script by the shell.
Messages name the `exec` builtin only when it was `named`; a shell that replaces itself
with the last command of its script words them as for any command. -/
def runExternal (launch : Launch) (exec : Bool) (name : String) (args : List String)
    (named : Bool := false) : Sh Nat := do
  let s : Shell ← get
  let pathVar := (s.get? "PATH").getD ""
  let t ← liftSys Sys.tree
  let failure (e : OsError) : String :=
    match s.flavor with
    | .bash => if named then name ++ ": " ++ (if e == OsError.noEntry then "not found" else e.description)
      else bashExecError name e
    | .dash => name ++ ": " ++ execErrorText e
  let found := if name.contains '/' then
      match t.lookup s.proc.here name with
      | .ok (_, .dir) => if s.flavor == Flavor.bash then Except.error OsError.isDirectory else .ok name
      | _ => .ok name
    else match s.hashed.lookup name with
      | some path => .ok path
      | none => searchPath t s.proc.here pathVar name
  let codeOf (e : OsError) : Nat :=
    match e with
    | .permissionDenied | .isDirectory => 126
    | .noEntry | .notDirectory => 127
    | _ => 2
  match found with
  | .error e =>
    if named then warnIn "exec" (name ++ ": " ++ (if s.flavor == Flavor.bash && e == OsError.noEntry then "not found" else execErrorText e))
    else warn (failure e)
    let code := codeOf e
    if exec then exitWith code else return code
  | .ok path =>
    if !name.contains '/' then
      modify fun s => { s with hashed := (name, path) :: s.hashed.filter (·.1 != name) }
    let base := { s.proc with argv := name :: args, env := s.environment }
    let child ← if exec then pure base else liftSys (Sys.fork base)
    let interpreter := if s.flavor == Flavor.bash then "/bin/bash" else "/bin/sh"
    let attempt : Sys (Except OsError Status) := do
      match ← launch path child with
      | .error .execFormat => launch interpreter { child with argv := interpreter :: path :: args }
      | r => pure r
    match ← liftSys attempt with
    | .error e =>
      warn (failure e)
      let code := codeOf e
      if exec then exitWith code else return code
    | .ok st =>
      if exec then
        let code ← liftSys (becomeStatus st)
        exitWith code
      else
        let code ← noteChild st
        receiveSignals
        return code

/-- Evaluates an expression of the conditional command `[[ ]]`: patterns on the right of
`==` and `!=` match with their quoted parts literal, arithmetic operators evaluate both
sides as arithmetic. An error gives its message. -/
def evalCond (run : String → Sh String) : Nat → CondExpr → Sh (Except String Bool)
  | 0, _ => pure (.ok false)
  | fuel + 1, e =>
    match e with
    | .word w => do return .ok !(← expandText run w).isEmpty
    | .not inner => do return (← evalCond run fuel inner).map (!·)
    | .and a b => do
      match ← evalCond run fuel a with
      | .ok true => evalCond run fuel b
      | r => return r
    | .or a b => do
      match ← evalCond run fuel a with
      | .ok false => evalCond run fuel b
      | r => return r
    | .unary op w => do
      let arg ← expandText run w
      let s ← get
      let t ← liftSys Sys.tree
      return .ok (unaryTest s t op arg)
    | .binary op l r => do
      let lhs ← expandText run l
      match op with
      | "==" | "=" | "!=" =>
        let pat ← expandPattern run r
        let hit := patternMatches pat lhs
        return .ok (if op == "!=" then !hit else hit)
      | "=~" =>
        let rhs ← expandText run r
        return .error ("regular expression " ++ rhs ++ " is not supported")
      | "<" | ">" =>
        let rhs ← expandText run r
        return .ok (if op == "<" then bytesBefore lhs rhs else bytesBefore rhs lhs)
      | "-nt" | "-ot" | "-ef" =>
        let rhs ← expandText run r
        let s ← get
        let t ← liftSys Sys.tree
        return .ok (fileCompare s t op lhs rhs)
      | _ =>
        let rhs ← expandText run r
        match ← arithValue lhs with
        | .error e => return .error (e.message true)
        | .ok x =>
          match ← arithValue rhs with
          | .error e => return .error (e.message true)
          | .ok y => return .ok (compareNumbers op x.toInt y.toInt)

def arithCommand (text : String) : Sh Nat := do
  match ← arithValue text with
  | .ok v => return (if v == 0 then 1 else 0)
  | .error e =>
    warn ("((: " ++ e.message true)
    return 1

mutual

def evalCmd (launch : Launch) : Nat → Bool → Cmd → Sh Flow
  | 0, _, _ => pure .next
  | fuel + 1, exec, cmd =>
    match cmd with
    | .simple assigns words redirs line => do
      let flow ← evalSimple launch fuel exec assigns words redirs line
      afterCommand launch fuel
      return flow
    | .pipeline negate [stage] => do
      if negate then
        let flow ← withTested (evalCmd launch fuel false stage)
        negateStatus
        return flow
      else evalCmd launch fuel exec stage
    | .pipeline negate stages => do
      if negate then
        withTested (evalPipeline launch fuel stages)
        negateStatus
      else
        evalPipeline launch fuel stages
        afterCommand launch fuel
      return .next
    | .andOr first rest => do
      let flow ← if rest.isEmpty then evalCmd launch fuel exec first
        else withTested (evalCmd launch fuel false first)
      if flow != .next then return flow
      runAndOr launch fuel exec rest
    | .sequence items => runSequence launch fuel exec items
    | .background body => do
      let s ← get
      let nul ← liftSys Sys.newNull
      let (pid, st) ← runChild launch fuel (s.proc.withFd 0 nul) body
      modify fun s => { s with lastBackground := some pid, status := 0, finished := (pid, st.shellCode) :: s.finished }
      return .next
    | .group body redirs => withRedirs launch fuel redirs (evalCmd launch fuel exec body)
    | .subshell body redirs => withRedirs launch fuel redirs (do
        let (_, st) ← runChild launch fuel (← get).proc body
        setStatus (← noteChild st)
        receiveSignals
        afterCommand launch fuel
        return .next)
    | .ifThen branches otherwise redirs =>
      withRedirs launch fuel redirs (runIf launch fuel exec branches otherwise)
    | .forLoop name words body redirs => withRedirs launch fuel redirs (do
        let items ← match words with
          | some ws => expandFields (substitute launch fuel) ws
          | none => pure (← get).params
        modify fun s => { s with loops := s.loops + 1 }
        let flow ← runFor launch fuel name items body 0
        modify fun s => { s with loops := s.loops - 1 }
        return flow)
    | .arithFor init test step body redirs line => withRedirs launch fuel redirs (do
        modify fun s => { s with line }
        let run := substitute launch fuel
        let initText ← expandText run init
        if !initText.trimAscii.isEmpty then
          match ← arithValue initText with
          | .error e => warn ("((: " ++ e.message true); setStatus 1; return .next
          | .ok _ => pure ()
        modify fun s => { s with loops := s.loops + 1 }
        let flow ← runArithFor launch fuel test step body 0
        modify fun s => { s with loops := s.loops - 1 }
        return flow)
    | .whileLoop isUntil cond body redirs => withRedirs launch fuel redirs (do
        modify fun s => { s with loops := s.loops + 1 }
        let flow ← runWhile launch fuel isUntil cond body 0
        modify fun s => { s with loops := s.loops - 1 }
        return flow)
    | .caseOf subject arms redirs => withRedirs launch fuel redirs (do
        let text ← expandText (substitute launch fuel) subject
        runCase launch fuel exec text false arms)
    | .function name body => do
      modify fun s => { s with functions := (name, body) :: s.functions.filter (·.1 != name), status := 0 }
      return .next
    | .arithmetic expr redirs line => withRedirs launch fuel redirs (do
        modify fun s => { s with line }
        let text ← expandText (substitute launch fuel) expr
        setStatus (← arithCommand text)
        afterCommand launch fuel
        return .next)
    | .test expr redirs line => withRedirs launch fuel redirs (do
        modify fun s => { s with line }
        match ← evalCond (substitute launch fuel) (fuel + 1) expr with
        | .ok v => setStatus (if v then 0 else 1)
        | .error m => warn m; setStatus 2
        afterCommand launch fuel
        return .next)

def afterCommand (launch : Launch) : Nat → Sh Unit
  | 0 => pure ()
  | fuel + 1 => do
    let s ← get
    if s.status == 0 || s.tested then return
    if s.flavor == .bash then
      match s.traps.lookup 66 with
      | some action =>
        if !action.isEmpty && !s.trapping.contains 66 then runTrap launch fuel 66 action
      | none => pure ()
    let s ← get
    if s.isOn "errexit" then exitWith s.status

def runTrap (launch : Launch) : Nat → Nat → String → Sh Unit
  | 0, _, _ => pure ()
  | fuel + 1, condition, action => do
    let s ← get
    modify fun s => { s with trapping := condition :: s.trapping }
    let restore : Sh Unit := modify fun t => { t with trapping := t.trapping.filter (· != condition), status := s.status }
    let _ ← tryCatch (runScript launch fuel action false s.line) fun e => do
      restore
      throw e
    restore

def runPending (launch : Launch) : Nat → Sh Unit
  | 0 => pure ()
  | fuel + 1 => do
    receiveSignals
    let s ← get
    match s.pendingSignals with
    | [] => pure ()
    | signal :: rest =>
      modify fun s => { s with pendingSignals := rest }
      match s.traps.lookup signal with
      | some action =>
        if !action.isEmpty && !s.trapping.contains signal then runTrap launch fuel signal action
      | none => pure ()
      runPending launch fuel

def withRedirs (launch : Launch) : Nat → List Redir → Sh Flow → Sh Flow
  | 0, _, _ => pure .next
  | fuel + 1, redirs, body => do
    if redirs.isEmpty then return ← body
    let saved := (← get).proc.fds
    let touched := touchedFds redirs
    match ← applyRedirs (substitute launch fuel) redirs with
    | some message =>
      restoreTouched saved touched
      warn message
      setStatus (if (← get).flavor == .bash then 1 else 2)
      return .next
    | none =>
      let flow ← tryCatch body fun e => do
        restoreTouched saved touched
        throw e
      restoreTouched saved touched
      return flow

def runAndOr (launch : Launch) : Nat → Bool → List (Bool × Cmd) → Sh Flow
  | 0, _, _ => pure .next
  | _ + 1, _, [] => pure .next
  | fuel + 1, exec, (isAnd, c) :: rest => do
    if ((← get).status == 0) == isAnd then
      let flow ← if rest.isEmpty then evalCmd launch fuel exec c
        else withTested (evalCmd launch fuel false c)
      if flow != .next then return flow
    runAndOr launch fuel exec rest

def runSequence (launch : Launch) : Nat → Bool → List Cmd → Sh Flow
  | 0, _, _ => pure .next
  | _ + 1, _, [] => pure .next
  | fuel + 1, exec, c :: rest => do
    let flow ← evalCmd launch fuel (exec && rest.isEmpty) c
    runPending launch fuel
    if flow != .next then return flow
    runSequence launch fuel exec rest

def runIf (launch : Launch) : Nat → Bool → List (Cmd × Cmd) → Option Cmd → Sh Flow
  | 0, _, _, _ => pure .next
  | fuel + 1, exec, [], otherwise =>
    match otherwise with
    | some c => evalCmd launch fuel exec c
    | none => do setStatus 0; return .next
  | fuel + 1, exec, (cond, body) :: rest, otherwise => do
    let flow ← withTested (evalCmd launch fuel false cond)
    if flow != .next then return flow
    if (← get).status == 0 then evalCmd launch fuel exec body
    else runIf launch fuel exec rest otherwise

def runWhile (launch : Launch) : Nat → Bool → Cmd → Cmd → Nat → Sh Flow
  | 0, _, _, _, _ => pure .next
  | fuel + 1, isUntil, cond, body, last => do
    let flow ← withTested (evalCmd launch fuel false cond)
    match flow with
    | .breaking n => setStatus last; return (if n ≤ 1 then .next else .breaking (n - 1))
    | .continuing n =>
      if n ≤ 1 then runWhile launch fuel isUntil cond body last else return .continuing (n - 1)
    | .returning => return .returning
    | .next =>
    if ((← get).status == 0) == isUntil then
      setStatus last
      return .next
    match ← evalCmd launch fuel false body with
    | .breaking n => if n ≤ 1 then return .next else return .breaking (n - 1)
    | .continuing n =>
      if n ≤ 1 then runWhile launch fuel isUntil cond body (← get).status
      else return .continuing (n - 1)
    | .returning => return .returning
    | .next => runWhile launch fuel isUntil cond body (← get).status

def runFor (launch : Launch) : Nat → String → List String → Cmd → Nat → Sh Flow
  | 0, _, _, _, _ => pure .next
  | _ + 1, _, [], _, last => do setStatus last; return .next
  | fuel + 1, name, item :: items, body, _ => do
    let _ ← assignText name none false item
    match ← evalCmd launch fuel false body with
    | .breaking n => if n ≤ 1 then return .next else return .breaking (n - 1)
    | .continuing n =>
      if n ≤ 1 then runFor launch fuel name items body (← get).status
      else return .continuing (n - 1)
    | .returning => return .returning
    | .next => runFor launch fuel name items body (← get).status

def runArithFor (launch : Launch) : Nat → Word → Word → Cmd → Nat → Sh Flow
  | 0, _, _, _, _ => pure .next
  | fuel + 1, test, step, body, last => do
    let run := substitute launch fuel
    let testText ← expandText run test
    let go ← if testText.trimAscii.isEmpty then pure true
      else match ← arithValue testText with
        | .ok v => pure (v != 0)
        | .error e => do
          warn ("((: " ++ e.message true)
          setStatus 1
          return .next
    if !go then
      setStatus last
      return .next
    let flow ← evalCmd launch fuel false body
    let after ← match flow with
      | .breaking n => pure (some (if n ≤ 1 then Flow.next else .breaking (n - 1)))
      | .continuing n => pure (if n ≤ 1 then none else some (.continuing (n - 1)))
      | .returning => pure (some .returning)
      | .next => pure none
    match after with
    | some f => return f
    | none =>
      let last := (← get).status
      let stepText ← expandText run step
      if !stepText.trimAscii.isEmpty then
        match ← arithValue stepText with
        | .ok _ => pure ()
        | .error e =>
          warn ("((: " ++ e.message true)
          setStatus 1
          return .next
      runArithFor launch fuel test step body last

/-- Runs the first arm of a `case` with a pattern that matches, or with `fallen` the next
arm's body whatever its patterns. An arm that ends with `;&` runs the next arm's body too,
one that ends with `;;&` goes on testing the arms after it. -/
def runCase (launch : Launch) : Nat → Bool → String → Bool → List (List Word × Cmd × CaseEnd) → Sh Flow
  | 0, _, _, _, _ => pure .next
  | _ + 1, _, _, fallen, [] => do
    if !fallen then setStatus 0
    return .next
  | fuel + 1, exec, text, fallen, (patterns, body, ending) :: rest => do
    let mut hit := fallen
    for w in patterns do
      if !hit then
        let pat ← expandPattern (substitute launch fuel) w
        if patternMatches pat text then hit := true
    if hit then
      setStatus 0
      let flow ← evalCmd launch fuel (exec && ending == .stop) body
      if flow != .next then return flow
      match ending with
      | .stop => return .next
      | .fallThrough => runCase launch fuel exec text true rest
      | .retest => runCase launch fuel exec text false rest
    else runCase launch fuel exec text false rest

def evalPipeline (launch : Launch) : Nat → List Cmd → Sh Unit
  | 0, _ => pure ()
  | fuel + 1, stages => do
    let s ← get
    let n := stages.length
    let mut input : Option Nat := none
    let mut codes : Array Nat := #[]
    for (stage, i) in stages.zipIdx do
      let out ← if i + 1 == n then pure none else some <$> liftSys Sys.newPipe
      let p0 := match input with
        | some d => s.proc.withFd 0 d
        | none => s.proc
      let p1 := match out with
        | some d => p0.withFd 1 d
        | none => p0
      let (_, st) ← runChild launch fuel p1 stage
      codes := codes.push (← noteChild st)
      input := out
    let code := pipelineStatus ((← get).isOn "pipefail") codes.toList
    setStatus code
    if s.flavor == .bash then
      modify fun s => s.setValue "PIPESTATUS" (.indexed (codes.toList.zipIdx.map fun (c, i) => (i, toString c)))
    receiveSignals

/-- Runs a command in a child process made from `proc`: the child's number and how it
ended. The shell's own state is untouched. Traps other than ignored signals are not kept in
the child. -/
def runChild (launch : Launch) : Nat → Proc → Cmd → Sh (Nat × Status)
  | 0, _, _ => pure (0, .exited 0)
  | fuel + 1, proc, body => do
    let saved ← get
    let child ← liftSys (Sys.fork proc)
    let start := { saved with proc := child, inSubshell := true, pendingSignals := [],
                              traps := saved.traps.filter (·.2.isEmpty), trapping := [] }
    let work : Sys Nat := do
      let exec := start.traps.isEmpty
      let (result, _) ← ((runProcess launch fuel (do let _ ← evalCmd launch fuel exec body)).run).run start
      match result with
      | .ok code => pure code
      | .error _ => pure 1
    let st ← liftSys (Sys.runToEnd child work)
    return (child.pid, st)

def substitute (launch : Launch) : Nat → String → Sh String
  | 0, _ => pure ""
  | fuel + 1, script => do
    let saved ← get
    let capture ← liftSys Sys.newScratch
    let child ← liftSys (Sys.fork (saved.proc.withFd 1 capture))
    let start := { saved with proc := child, inSubshell := true, pendingSignals := [],
                              traps := saved.traps.filter (·.2.isEmpty), trapping := [] }
    let work : Sys Nat := do
      let (result, _) ← ((runProcess launch fuel (do let _ ← runScript launch fuel script false saved.line)).run).run start
      match result with
      | .ok code => pure code
      | .error _ => pure 1
    let st ← liftSys (Sys.runToEnd child work)
    let code ← noteChild st
    let data ← match ← liftSys (Sys.desc? capture) with
      | some { backing := .scratch bytes, .. } => pure bytes
      | _ => pure .empty
    let hasZero := data.toList.contains 0
    let data := if hasZero then ByteArray.mk (data.toList.filter (· != 0)).toArray else data
    if hasZero && saved.flavor == .bash then
      warn "warning: command substitution: ignored null byte in input"
    modify fun s => { s with substituted := code, status := if s.flavor == .bash then code else s.status }
    return Pipework.Text.decodeLossy data

/-- Runs an action as the whole life of a shell process, and gives its exit status: the
status of its last command, or the one `exit` or an error ended it with. The `EXIT` trap
runs last, with that status in `$?`; an `exit` inside it gives the final status. -/
def runProcess (launch : Launch) : Nat → Sh Unit → Sh Nat
  | 0, _ => pure 0
  | fuel + 1, body => do
    let code ← tryCatch (do body; pure (← get).status) fun
      | .exit code => pure code
      | .discard => do
        let s ← get
        pure (if s.status == 0 then 1 else s.status)
    modify fun s => { s with status := code }
    match (← get).traps.lookup 0 with
    | some action =>
      modify fun s => { s with traps := s.traps.filter (·.1 != 0) }
      if action.isEmpty then return code
      tryCatch (do
          let _ ← runScript launch fuel action false (← get).line
          pure code) fun
        | .exit c => pure c
        | .discard => pure code
    | none => return code

def runScript (launch : Launch) : Nat → String → Bool → Nat → Sh Flow
  | 0, _, _, _ => pure .next
  | fuel + 1, text, execLast, line => do
    let bash := (← get).flavor == .bash
    scriptLoop launch fuel text { input := text.toList, bash, line } execLast

def scriptLoop (launch : Launch) : Nat → String → PState → Bool → Sh Flow
  | 0, _, _, _ => pure .next
  | fuel + 1, text, st, execLast => do
    match (nextCommand fuel).run st with
    | .error e =>
      let endLine := st.line + (st.input.filter (· == '\n')).length
      reportSyntax e text endLine
      exitWith 2
    | .ok (none, _) => return .next
    | .ok (some (cmd, atEnd), after) =>
      let s ← get
      for (n, w) in after.warnings do
        printTo 2 (s.arg0 ++ ": line " ++ toString n ++ ": " ++ w ++ "\n")
      let after := { after with warnings := [] }
      if s.isOn "noexec" then return ← scriptLoop launch fuel text after execLast
      let top := !s.inSubshell && s.frames.isEmpty && s.sourceDepth == 0
      let flow ← if top && s.flavor == .bash then
          tryCatch (evalCmd launch fuel (execLast && atEnd) cmd) fun
            | .discard => do
              modify fun s => { s with status := if s.status == 0 then 1 else s.status, tested := false }
              pure .next
            | e => throw e
        else evalCmd launch fuel (execLast && atEnd) cmd
      runPending launch fuel
      if flow == .returning then return flow
      scriptLoop launch fuel text after execLast

def evalSimple (launch : Launch) : Nat → Bool → List Assign → List Word → List Redir → Nat → Sh Flow
  | 0, _, _, _, _, _ => pure .next
  | fuel + 1, exec, assigns, words, redirs, line => do
    modify fun s => { s with line, substituted := 0 }
    let run := substitute launch fuel
    let (fields, decl) ← expandCommandWords run words
    let mut items : Array DeclItem := #[]
    for a in assigns do
      items := items.push (← declItemOfAssign run a)
    let substituted := (← get).substituted
    traceCommand items.toList fields
    let saved := (← get).proc.fds
    let touched := touchedFds redirs
    match ← applyRedirs run redirs with
    | some message =>
      restoreTouched saved touched
      warn message
      let s ← get
      setStatus (if s.flavor == .bash then 1 else 2)
      if s.flavor == .dash && specialBuiltins.contains (fields.headD "") then exitWith 2
      return .next
    | none =>
      match fields with
      | [] =>
        restoreTouched saved touched
        for item in items do
          if !(← assignItem run item) then
            if (← get).flavor == .dash then exitWith 2
            setStatus 1
            return .next
        setStatus substituted
        return .next
      | name :: args =>
        if name == "exec" && args.isEmpty then
          for item in items do
            let _ ← assignItem run item
          setStatus 0
          return .next
        let body := runCommand launch fuel exec name args decl items.toList
        if redirs.isEmpty then body
        else
          let flow ← tryCatch body fun e => do
            restoreTouched saved touched
            throw e
          restoreTouched saved touched
          return flow

/-- Runs a command by name, once its redirections are in force: the Almquist shell looks for
a special builtin, then a function, then a builtin, then a program; bash for a function,
then a builtin, then a program. Assignments before it last for the command alone, except
before a special builtin in the Almquist shell. -/
def runCommand (launch : Launch) : Nat → Bool → String → List String → Option (List DeclArg) →
    List DeclItem → Sh Flow
  | 0, _, _, _, _, _ => pure .next
  | fuel + 1, exec, name, args, decl, items => do
    let s ← get
    let run := substitute launch fuel
    let program : Sh Flow := withTemporary run items (do
      let code ← runExternal launch exec name args
      setStatus code
      return .next)
    match s.flavor with
    | .dash =>
      if specialBuiltins.contains name then
        for item in items do
          if !(← assignItem run item) then exitWith 2
        runBuiltin launch fuel name args decl
      else match s.functions.lookup name with
        | some body => withTemporary run items (callFunction launch fuel body args)
        | none =>
          if dashBuiltins.contains name then withTemporary run items (runBuiltin launch fuel name args decl)
          else program
    | .bash =>
      match s.functions.lookup name with
      | some body => withTemporary run items (callFunction launch fuel body args)
      | none =>
        if s.flavor.isBuiltin name then withTemporary run items (runBuiltin launch fuel name args decl)
        else program

def callFunction (launch : Launch) : Nat → Cmd → List String → Sh Flow
  | 0, _, _ => pure .next
  | fuel + 1, body, args => do
    let savedParams := (← get).params
    modify fun s => { s with params := args, frames := [] :: s.frames }
    let restore : Sh Unit := modify fun s => { s.popFrame with params := savedParams }
    let flow ← tryCatch (evalCmd launch fuel false body) fun e => do
      restore
      throw e
    restore
    match flow with
    | .returning => return .next
    | f => return f

/-- Runs a script in the current shell for `.` and `source`: found on the search path when
its name has no slash (bash then also looks in the working directory), with the words after
it as the positional parameters while it runs. -/
def sourceFile (launch : Launch) : Nat → String → List String → Sh Flow
  | 0, _, _ => pure .next
  | fuel + 1, file, extra => do
    let s ← get
    let t ← liftSys Sys.tree
    let path : Option String :=
      if file.contains '/' then some file
      else
        let onPath := (((s.get? "PATH").getD "").splitOn ":").find? fun dir =>
          match t.lookup s.proc.here (if dir.isEmpty then file else joinPath dir file) with
          | .ok (_, .file _ _) => true
          | _ => false
        match onPath with
        | some dir => some (if dir.isEmpty then file else joinPath dir file)
        | none => if s.flavor == .bash then some file else none
    match path with
    | none =>
      fatalIn "." (file ++ ": not found")
    | some path =>
    match ← liftSys (Sys.openPath s.proc path .read) with
    | .error e =>
      match s.flavor with
      | .dash => fatalIn "." ("cannot open " ++ file ++ ": " ++ openErrorText e)
      | .bash =>
        warn (file ++ ": " ++ e.description)
        setStatus 1
        return .next
    | .ok d =>
      let data ← match ← liftSys (Sys.readRestDesc d) with
        | .ok feed => pure (feed.finite?.getD .empty)
        | .error _ => pure .empty
      let savedParams := s.params
      let savedLine := s.line
      modify fun s => { s with sourceDepth := s.sourceDepth + 1,
                                params := if extra.isEmpty then s.params else extra, status := 0 }
      let restore : Sh Unit := modify fun s =>
        { s with sourceDepth := s.sourceDepth - 1, line := savedLine,
                 params := if extra.isEmpty then s.params else savedParams }
      let flow ← tryCatch (runScript launch fuel (Pipework.Text.decodeLossy data) false 1) fun e => do
        restore
        throw e
      restore
      match flow with
      | .returning => return .next
      | f => return f

def runBuiltin (launch : Launch) : Nat → String → List String → Option (List DeclArg) → Sh Flow
  | 0, _, _, _ => pure .next
  | fuel + 1, name, args, decl => do
    let s ← get
    let run := substitute launch fuel
    let done (code : Nat) : Sh Flow := do
      setStatus code
      return .next
    match name with
    | ":" | "true" => done 0
    | "false" => done 1
    | "break" | "continue" =>
      if s.loops == 0 then
        if s.flavor == .bash then
          warnIn name "only meaningful in a `for', `while', or `until' loop"
        else
          let _ ← loopCount name args
        done 0
      else
        match ← loopCount name args with
        | .error code =>
          setStatus code
          return .breaking s.loops
        | .ok n =>
          setStatus 0
          let n := min n s.loops
          return (if name == "break" then .breaking n else .continuing n)
    | "return" =>
      if s.flavor == .bash && s.frames.isEmpty && s.sourceDepth == 0 then
        warnIn "return" "can only `return' from a function or sourced script"
        done 2
      else
        setStatus (← returnStatus args)
        return .returning
    | "exit" =>
      let _ ← exitBuiltin args
      done 0
    | "export" | "readonly" | "declare" | "typeset" | "local" =>
      match s.flavor with
      | .dash => done (← if name == "local" then dashLocal args else dashMark name args)
      | .bash => done (← declareBuiltin run name (decl.getD (args.map DeclArg.word)))
    | "set" => done (← setBuiltin args)
    | "shift" => done (← shiftBuiltin args)
    | "unset" => done (← unsetBuiltin args)
    | "eval" =>
      setStatus 0
      if args.isEmpty then return .next
      runScript launch fuel (" ".intercalate args) false s.line
    | "." | "source" =>
      match (if s.flavor == .bash then dropDashes args else args) with
      | [] =>
        if s.flavor == .bash then
          warnIn name "filename argument required"
          liftSys (Sys.say s.proc 2 (name ++ ": usage: " ++ name ++ " filename [arguments]\n"))
          done 2
        else done 0
      | file :: extra => sourceFile launch fuel file extra
    | "exec" =>
      match dropDashes args with
      | [] => done 0
      | prog :: rest => done (← runExternal launch true prog rest true)
    | "times" =>
      printTo 1 (if s.flavor == .bash then "0m0.000s 0m0.000s\n0m0.000s 0m0.000s\n"
        else "0m0.000000s 0m0.000000s\n0m0.000000s 0m0.000000s\n")
      done 0
    | "trap" => done (← trapBuiltin args)
    | "echo" => done (← echoBuiltin args)
    | "printf" => done (← printfBuiltin args)
    | "test" | "[" => done (← testBuiltin name args)
    | "cd" => done (← cdBuiltin args)
    | "pwd" => done (← pwdBuiltin)
    | "read" => done (← readBuiltin args)
    | "mapfile" | "readarray" => done (← mapfileBuiltin name args)
    | "kill" => done (← killBuiltin args)
    | "umask" => done (← umaskBuiltin args)
    | "type" => done (← typeBuiltin args)
    | "getopts" => done (← getoptsBuiltin args)
    | "wait" => done (← waitBuiltin args)
    | "let" => done (← letBuiltin args)
    | "shopt" => done (← shoptBuiltin args)
    | "ulimit" => printTo 1 "unlimited\n"; done 0
    | "hash" => done 0
    | "command" =>
      match args with
      | "-v" :: names => done (← commandDescribe false names)
      | "-V" :: names => done (← commandDescribe true names)
      | "-p" :: rest | "--" :: rest =>
        match rest with
        | prog :: more => runPlain launch fuel prog more
        | [] => done 0
      | prog :: rest => runPlain launch fuel prog rest
      | [] => done 0
    | "builtin" =>
      match args with
      | prog :: rest =>
        if s.flavor.isBuiltin prog then runBuiltin launch fuel prog rest none
        else
          warnIn "builtin" (prog ++ ": not a shell builtin")
          done 1
      | [] => done 0
    | _ => done 0

def runPlain (launch : Launch) : Nat → String → List String → Sh Flow
  | 0, _, _ => pure .next
  | fuel + 1, name, args => do
    let s ← get
    if s.flavor.isBuiltin name then runBuiltin launch fuel name args none
    else
      let code ← runExternal launch false name args
      setStatus code
      return .next

end

end Pipework.Posix
