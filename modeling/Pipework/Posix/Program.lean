import Pipework.Posix.Shell

/-! The shell as a program: its options, its script and its starting variables. -/

namespace Pipework.Posix

open Pipework.Host Pipework.Tools

/-- What the shell's arguments ask for: the options set, and where the script comes from
with `$0` and the positional parameters. -/
structure Invocation where
  options : List (String × Bool) := []
  command : Option String := none
  file : Option String := none
  arg0 : String
  params : List String := []

def readInvocation (flavor : Flavor) (argv0 : String) : Nat → Bool → Invocation → List String → Except String Invocation
  | 0, _, inv, _ => .ok inv
  | _ + 1, useC, inv, [] =>
    if useC then .error "-c requires an argument" else .ok inv
  | fuel + 1, useC, inv, arg :: rest =>
    if arg == "--" || arg == "-" then finish useC inv rest
    else if flavor == .bash && arg.startsWith "--" then
      readInvocation flavor argv0 fuel useC inv rest
    else if (arg.startsWith "-" || arg.startsWith "+") && arg.length > 1 then
      let on := arg.startsWith "-"
      let letters := (arg.drop 1).toString.toList
      if letters == ['o'] then
        match rest with
        | name :: more => readInvocation flavor argv0 fuel useC { inv with options := inv.options ++ [(name, on)] } more
        | [] => readInvocation flavor argv0 fuel useC inv []
      else
        let known (c : Char) : Bool := c == 'c' || c == 's' || c == 'i' || c == 'l' || (optionOfLetter flavor c).isSome
        match letters.find? (fun c => !known c) with
        | some c => .error ((if flavor == .bash then "-" else "Illegal option -") ++
            (if flavor == .bash then String.singleton c ++ ": invalid option" else String.singleton c))
        | none =>
          let named := letters.filterMap (optionOfLetter flavor)
          readInvocation flavor argv0 fuel (useC || letters.contains 'c')
            { inv with options := inv.options ++ named.map (·, on) } rest
    else finish useC inv (arg :: rest)
where
  /-- The operands after the options. -/
  finish (useC : Bool) (inv : Invocation) (operands : List String) : Except String Invocation :=
    if useC then
      match operands with
      | text :: name :: params => .ok { inv with command := some text, arg0 := name, params }
      | [text] => .ok { inv with command := some text }
      | [] => .error "-c requires an argument"
    else
      match operands with
      | file :: params => .ok { inv with file := some file, arg0 := file, params }
      | [] => .ok inv

def Shell.preset (s : Shell) (name : String) (value : Option String) (exported : Bool := false) : Shell :=
  { s with vars := s.vars ++ [(name, { value := value.map Value.text, exported, serial := s.serial })],
           serial := s.serial + 1 }

/-- The shell's state when it starts. The Almquist shell makes its preset variables, then
takes the environment, all exported, then sets `PPID` and `PWD`. bash takes the environment,
then sets its own variables; `OLDPWD` is exported without a value. -/
def initialShell (flavor : Flavor) (p : Proc) (inv : Invocation) : Shell :=
  let s : Shell := { flavor, arg0 := inv.arg0, params := inv.params, rootPid := p.pid, proc := p,
                     fromString := inv.command.isSome }
  match flavor with
  | .dash =>
    let presets : List (String × Option String) :=
      [("IFS", some " \t\n"), ("MAIL", none), ("MAILPATH", none), ("PATH", some defaultSearchPath),
       ("PS1", some "$ "), ("PS2", some "> "), ("PS4", some "+ "), ("OPTIND", some "1"),
       ("LINENO", some ""), ("TERM", none), ("HISTSIZE", none)]
    let s := presets.foldl (fun st (n, v) => st.preset n v) s
    let s := p.env.foldl (fun st (n, v) => st.setVar n v true) s
    let s := s.setVar "PPID" (toString (p.parents.headD 1))
    let s := s.setVar "PWD" p.here.text true
    inv.options.foldl (fun st (name, on) => st.setOption name on) s
  | .bash =>
    let onByDefault : List String := (shoptDefaults.filter (fun (e : String × Bool) => e.2)).map Prod.fst
    let s : Shell := { s with options := ["braceexpand", "hashall", "interactive-comments"],
                              shopts := onByDefault }
    let s := p.env.foldl (fun st (n, v) => st.setVar n v true) s
    let level := ((s.get? "SHLVL").bind String.toNat?).getD 0
    let s := s.setVar "SHLVL" (toString (level + 1)) true
    let s := s.setVar "PWD" p.here.text true
    let s := if (s.var? "OLDPWD").isNone then s.preset "OLDPWD" none true else s
    let s := if (s.var? "PATH").isNone then
        s.preset "PATH" (some "/usr/local/bin:/usr/local/sbin:/usr/bin:/usr/sbin:/bin:/sbin:.") else s
    let s := [("IFS", " \t\n"), ("OPTIND", "1"), ("OPTERR", "1"), ("PS2", "> "), ("PS4", "+ "),
              ("PPID", toString (p.parents.headD 1)), ("BASH", "/usr/bin/bash"), ("UID", "0"), ("EUID", "0"),
              ("BASH_VERSION", "5.2.15(1)-release"), ("HOSTTYPE", "x86_64"), ("MACHTYPE", "x86_64-pc-linux-gnu"),
              ("OSTYPE", "linux-gnu")].foldl
      (fun st (n, v) => if (st.var? n).isSome then st else st.preset n (some v)) s
    let versionParts : List (Nat × String) :=
      ["5", "2", "15", "1", "release", "x86_64-pc-linux-gnu"].zipIdx.map fun (v, i) => (i, v)
    let versionInfo : Var := { value := some (.indexed versionParts), readonly := true, serial := s.serial }
    let s := { s with vars := s.vars ++ [("BASH_VERSINFO", versionInfo)], serial := s.serial + 1 }
    inv.options.foldl (fun st (name, on) => st.setOption name on) s

def shellFuel : Nat := 1000000

def shellProgram (flavor : Flavor) : Program := fun launch p => do
  match readInvocation flavor p.name (p.args.length + 2) false { arg0 := p.name } p.args with
  | .error message =>
    match flavor with
    | .dash => Sys.say p 2 (p.name ++ ": 0: " ++ message ++ "\n")
    | .bash => Sys.say p 2 (p.name ++ ": " ++ message ++ "\n")
    return 2
  | .ok inv =>
    let text ← match inv.command, inv.file with
      | some text, _ => pure (some text)
      | none, some file =>
        match ← Sys.openPath p file .read with
        | .ok d =>
          match ← Sys.readRestDesc d with
          | .ok feed => pure (some (Pipework.Text.decodeLossy (feed.finite?.getD .empty)))
          | .error e =>
            match flavor with
            | .dash => Sys.say p 2 (p.name ++ ": 0: cannot open " ++ file ++ ": " ++ e.description ++ "\n")
            | .bash => Sys.say p 2 (p.name ++ ": " ++ file ++ ": " ++ e.description ++ "\n")
            pure none
        | .error e =>
          match flavor with
          | .dash => Sys.say p 2 (p.name ++ ": 0: cannot open " ++ file ++ ": " ++ openErrorText e ++ "\n")
          | .bash => Sys.say p 2 (p.name ++ ": " ++ file ++ ": " ++ e.description ++ "\n")
          pure none
      | none, none =>
        match ← Sys.readRest p 0 with
        | .ok feed => pure (some (Pipework.Text.decodeLossy (feed.finite?.getD .empty)))
        | .error _ => pure (some "")
    match text with
    | none => return (if flavor == .dash then 2 else 127)
    | some text =>
      let start := initialShell flavor p inv
      let execLast := inv.command.isSome && flavor == .dash
      let (result, _) ← ((runProcess launch shellFuel (do
          let _ ← runScript launch shellFuel text execLast 1)).run).run start
      Sys.takeSignals p.pid
      match result with
      | .ok code => return code
      | .error _ => return 1

end Pipework.Posix
