import Pipework.Posix.Builtin
import Pipework.Posix.Quote

/-! The builtins that make, change and list variables and options: `export`, `readonly`, `local`,
`unset`, `set`, and bash's `declare` (also `typeset`), `shopt` and `let`. -/

namespace Pipework.Posix

open Pipework.Host Pipework.Tools

/-- The value a declaration gives: a text, or the words of an array. -/
inductive DeclValue where
  | text (s : String)
  | list (items : List Word)

/-- One name of a declaration: the variable, the element it sets, whether it appends, and
the value, if any. -/
structure DeclItem where
  name : String
  index : Option String := none
  append : Bool := false
  value : Option DeclValue := none

/-- An argument of a declaration command: an expanded word, or an assignment. -/
inductive DeclArg where
  | word (text : String)
  | assign (item : DeclItem)

def declItemOf (text : String) : DeclItem :=
  let cs := text.toList
  let before := cs.takeWhile (· != '=')
  if before.length == cs.length then
    match cs.findIdx? (· == '[') with
    | some i =>
      if cs.getLast? == some ']' then
        { name := String.ofList (cs.take i), index := some (String.ofList ((cs.drop (i + 1)).dropLast)) }
      else { name := text }
    | none => { name := text }
  else
    let value := String.ofList (cs.drop (before.length + 1))
    let (before, append) := if before.getLast? == some '+' then (before.dropLast, true) else (before, false)
    let (name, index) := match before.findIdx? (· == '[') with
      | some i =>
        if before.getLast? == some ']' then
          (String.ofList (before.take i), some (String.ofList ((before.drop (i + 1)).dropLast)))
        else (String.ofList before, none)
      | none => (String.ofList before, none)
    { name, index, append, value := some (.text value) }

def attributeLetters (v : Var) : String :=
  let kind := match v.value with
    | some (.indexed _) => "a"
    | some (.assoc _) => "A"
    | _ => ""
  kind ++ (if v.integer then "i" else "") ++ (if v.readonly then "r" else "") ++
    (if v.exported then "x" else "") ++
    (match v.letterCase with
      | some false => "l"
      | some true => "u"
      | none => "")

def declareQuote (text : String) : String :=
  if needsAnsiQuote text then ansiQuote text else bashDoubleQuote text

def declareLine (name : String) (v : Var) : String :=
  let letters := attributeLetters v
  let flags := if letters.isEmpty then "--" else "-" ++ letters
  let value := match v.value with
    | none => ""
    | some (.text t) => "=" ++ declareQuote t
    | some (.indexed es) =>
      "=(" ++ " ".intercalate (es.map fun (i, t) => "[" ++ toString i ++ "]=" ++ declareQuote t) ++ ")"
    | some (.assoc es) =>
      let key (k : String) : String :=
        if needsAnsiQuote k then ansiQuote k
        else if hasShellMetas k || k == "@" || k == "*" then bashDoubleQuote k else k
      "=(" ++ String.join ((assocOrder es).map fun (k, t) => "[" ++ key k ++ "]=" ++ declareQuote t ++ " ") ++ ")"
  "declare " ++ flags ++ " " ++ name ++ value ++ "\n"

def Shell.sortedVars (s : Shell) : List (String × Var) :=
  s.vars.mergeSort fun a b => compare a.1.toUTF8.toList b.1.toUTF8.toList != .gt

def setLine (name : String) (v : Var) : Option String :=
  match v.value with
  | none => none
  | some (.text t) => some (name ++ "=" ++ bashValueQuote t ++ "\n")
  | some (.indexed es) =>
    some (name ++ "=(" ++ " ".intercalate (es.map fun (i, t) => "[" ++ toString i ++ "]=" ++ declareQuote t) ++ ")\n")
  | some (.assoc es) =>
    some (name ++ "=(" ++ String.join ((assocOrder es).map fun (k, t) => "[" ++ k ++ "]=" ++ declareQuote t ++ " ") ++ ")\n")

def listVariables : Sh Unit := do
  let s ← get
  for (n, v) in s.sortedVars do
    match s.flavor with
    | .dash =>
      match v.text? with
      | some value => printTo 1 (n ++ "=" ++ dashQuote value ++ "\n")
      | none => pure ()
    | .bash =>
      match setLine n v with
      | some line => printTo 1 line
      | none => pure ()

def notIdentifier (builtin name : String) : Sh Unit :=
  warnIn builtin ("`" ++ name ++ "': not a valid identifier")

/-! ### The Almquist shell's declarations -/

def dashMark (builtin : String) (args : List String) : Sh Nat := do
  let read := readOptions ['p'] args
  match read.rest with
  | .error message => fatalIn builtin message
  | .ok names =>
  let readonly := builtin == "readonly"
  if names.isEmpty then
    let s ← get
    for (n, v) in s.sortedVars do
      if (if readonly then v.readonly else v.exported) then
        match v.text? with
        | some value => printTo 1 (builtin ++ " " ++ n ++ "=" ++ dashQuote value ++ "\n")
        | none => printTo 1 (builtin ++ " " ++ n ++ "\n")
    return 0
  for arg in names do
    let item := declItemOf arg
    if !isName item.name || item.index.isSome then fatalIn builtin (arg ++ ": bad variable name")
    match item.value with
    | some (.text value) =>
      let s ← get
      if ((s.var? item.name).map (·.readonly)).getD false then
        fatalIn builtin (item.name ++ ": is read only")
      modify fun s => s.setVar item.name value
    | _ => pure ()
    modify fun s => s.alterVar item.name
      (fun v => if readonly then { v with readonly := true } else { v with exported := true })
      (if readonly then { readonly := true } else { exported := true })
  return 0

def dashLocal (args : List String) : Sh Nat := do
  if (← get).frames.isEmpty then fatalIn "local" "not in a function"
  for arg in args do
    if arg == "-" then continue
    let item := declItemOf arg
    if !isName item.name then fatalIn "local" (arg ++ ": bad variable name")
    modify fun s => s.shadow item.name
    match item.value with
    | some (.text value) => modify fun s => s.setVar item.name value
    | _ => pure ()
  return 0

/-! ### bash's declarations -/

/-- What the options of a declaration command ask for: attribute letters to set and to
clear, and whether to print, to act on functions, or to stay global. -/
structure DeclOptions where
  on : List Char := []
  off : List Char := []
  print : Bool := false
  functions : Bool := false
  functionNames : Bool := false
  global : Bool := false

/-- Reads the options of a bash declaration command from its front words; the letters it
knows are `known`. Gives the options and the arguments left, or the word that is not an
option. -/
def declOptions (known : List Char) : Nat → DeclOptions → List DeclArg → Except String (DeclOptions × List DeclArg)
  | 0, o, args => .ok (o, args)
  | _ + 1, o, [] => .ok (o, [])
  | fuel + 1, o, .word w :: rest =>
    match w.toList with
    | ['-', '-'] => .ok (o, rest)
    | sign :: letters@(_ :: _) =>
      if sign != '-' && sign != '+' then .ok (o, .word w :: rest)
      else match letters.find? (fun c => !known.contains c) with
        | some c => .error (String.singleton sign ++ String.singleton c)
        | none =>
          let o := letters.foldl (fun o c =>
            match c with
            | 'p' => { o with print := true }
            | 'f' => { o with functions := true }
            | 'F' => { o with functionNames := true }
            | 'g' => { o with global := true }
            | c => if sign == '-' then { o with on := c :: o.on.filter (· != c) }
                   else { o with off := c :: o.off.filter (· != c) }) o
          declOptions known fuel o rest
    | _ => .ok (o, .word w :: rest)
  | _ + 1, o, args => .ok (o, args)

def declUsage (builtin : String) : String :=
  match builtin with
  | "export" => "export: usage: export [-fn] [name[=value] ...] or export -p"
  | "readonly" => "readonly: usage: readonly [-aAf] [name[=value] ...] or readonly -p"
  | "local" => "local: usage: local [option] name[=value] ..."
  | b => b ++ ": usage: " ++ b ++ " [-aAfFgiIlnrtux] name[=value] ... or " ++ b ++ " -p [-aAfFilnrtux] [name ...]"

def hasAttributes (letters : List Char) (v : Var) : Bool :=
  letters.all fun c =>
    match c with
    | 'x' => v.exported
    | 'r' => v.readonly
    | 'i' => v.integer
    | 'a' => match v.value with
      | some (.indexed _) => true
      | _ => false
    | 'A' => match v.value with
      | some (.assoc _) => true
      | _ => false
    | 'l' => v.letterCase == some false
    | 'u' => v.letterCase == some true
    | _ => true

def withAttributes (o : DeclOptions) (v : Var) : Var :=
  let v := o.on.foldl (fun v c =>
    match c with
    | 'x' => { v with exported := true }
    | 'i' => { v with integer := true }
    | 'l' => { v with letterCase := some false }
    | 'u' => { v with letterCase := some true }
    | 'a' => match v.value with
      | some (.indexed _) | some (.assoc _) => v
      | some (.text t) => { v with value := some (.indexed [(0, t)]) }
      | none => { v with value := some (.indexed []) }
    | 'A' => match v.value with
      | some (.assoc _) => v
      | some (.text t) => { v with value := some (.assoc [("0", t)]) }
      | _ => { v with value := some (.assoc []) }
    | _ => v) v
  o.off.foldl (fun v c =>
    match c with
    | 'x' => { v with exported := false }
    | 'i' => { v with integer := false }
    | 'l' | 'u' => { v with letterCase := none }
    | _ => v) v

/-- Declares one item for a bash declaration command: makes it local when asked, sets its
attributes and value, then makes it read-only when asked. The result tells whether it
worked. -/
def declareItem (run : String → Sh String) (builtin : String) (o : DeclOptions) (makeLocal : Bool)
    (item : DeclItem) : Sh Bool := do
  if !isName item.name then
    notIdentifier builtin item.name
    return false
  let s ← get
  if makeLocal then
    let fresh := match s.frames with
      | frame :: _ => !frame.any (·.1 == item.name)
      | [] => false
    modify fun s => s.shadow item.name
    if fresh then modify fun s => { s with vars := s.vars.filter (·.1 != item.name) }
  let s ← get
  let current := s.var? item.name
  if (current.map (·.readonly)).getD false && (item.value.isSome || !o.on.all (fun c => c == 'r' || c == 'x')) then
    warnIn builtin (item.name ++ ": readonly variable")
    return false
  modify fun s => s.alterVar item.name (withAttributes o) (withAttributes o { exported := s.isOn "allexport" })
  let ok ← match item.value with
    | some (.text t) => assignText item.name item.index item.append t
    | some (.list items) => assignList run item.name item.append items
    | none => pure true
  if o.on.contains 'r' then modify fun s => s.alterVar item.name (fun v => { v with readonly := true }) { readonly := true }
  return ok

/-- bash's declaration commands: `declare` and `typeset`, `local`, `export` and `readonly`.
With names they declare variables; with `-p`, or with no names, they list them; `-f` and
`-F` ask about functions. -/
def declareBuiltin (run : String → Sh String) (builtin : String) (args : List DeclArg) : Sh Nat := do
  let s ← get
  if builtin == "local" && s.frames.isEmpty then
    warnIn "local" "can only be used in a function"
    return 1
  let known := match builtin with
    | "export" => ['f', 'n', 'p']
    | "readonly" => ['a', 'A', 'f', 'p']
    | "local" => "aAfFiIlnprtux".toList
    | _ => "aAfFgiIlnprtux".toList
  match declOptions known (args.length + 1) {} args with
  | .error opt =>
    warnIn builtin (opt ++ ": invalid option")
    liftSys (Sys.say s.proc 2 (declUsage builtin ++ "\n"))
    return 2
  | .ok (o, rest) =>
  let o := match builtin with
    | "export" =>
      if o.on.contains 'n' then { o with on := o.on.filter (· != 'n'), off := 'x' :: o.off }
      else { o with on := 'x' :: o.on }
    | "readonly" => { o with on := 'r' :: o.on }
    | _ => o
  let items := rest.map fun
    | .word w => declItemOf w
    | .assign item => item
  if o.functions || o.functionNames then
    if items.isEmpty then
      for (name, _) in s.functions.mergeSort (fun a b => compare a.1.toUTF8.toList b.1.toUTF8.toList != .gt) do
        if o.functionNames then printTo 1 ("declare -f " ++ name ++ "\n")
      return 0
    let mut status := 0
    for item in items do
      if (s.functions.lookup item.name).isSome then
        if o.functionNames then printTo 1 (item.name ++ "\n")
      else status := 1
    return status
  if items.isEmpty then
    if builtin == "declare" || builtin == "typeset" || builtin == "local" then
      if o.on.isEmpty && !o.print then
        listVariables
        return 0
    let shown := s.sortedVars.filter fun (_, v) => hasAttributes o.on v
    let shown := if builtin == "local" then
        match s.frames with
        | frame :: _ => shown.filter fun (n, _) => frame.any (·.1 == n)
        | [] => []
      else shown
    for (n, v) in shown do
      printTo 1 (declareLine n v)
    return 0
  if o.print then
    let mut status := 0
    for item in items do
      match s.var? item.name with
      | some v => printTo 1 (declareLine item.name v)
      | none =>
        warnIn builtin (item.name ++ ": not found")
        status := 1
    return status
  let makeLocal := !s.frames.isEmpty &&
    (builtin == "local" || ((builtin == "declare" || builtin == "typeset") && !o.global))
  let mut status := 0
  for item in items do
    if !(← declareItem run builtin o makeLocal item) then status := 1
  return status

def unsetBuiltin (args : List String) : Sh Nat := do
  let s ← get
  let (mode, names) := match args with
    | "-f" :: rest => ('f', rest)
    | "-v" :: rest => ('v', rest)
    | "-n" :: rest => ('v', rest)
    | rest => (' ', rest)
  let names := if s.flavor == .bash then dropDashes names else names
  let mut status := 0
  for n in names do
    let s ← get
    if mode == 'f' then
      modify fun s => { s with functions := s.functions.filter (·.1 != n) }
      continue
    let item := declItemOf n
    if !isName item.name then
      match s.flavor with
      | .dash => fatalIn "unset" (n ++ ": bad variable name")
      | .bash => notIdentifier "unset" n; status := 1; continue
    match s.var? item.name with
    | some v =>
      if v.readonly then
        match s.flavor with
        | .dash => fatalIn "unset" (item.name ++ ": is read only")
        | .bash =>
          warnIn "unset" (item.name ++ ": cannot unset: readonly variable")
          status := 1
          continue
      match item.index with
      | none => modify fun s => s.unsetVar item.name
      | some key =>
        match v.value with
        | some (.assoc es) => modify fun s => s.setValue item.name (.assoc (es.filter (·.1 != key)))
        | some (.indexed es) =>
          match ← arithValue key with
          | .ok i =>
            let top := (es.map (·.1)).foldl max 0
            let idx : Int := if i.toInt < 0 then (top : Int) + 1 + i.toInt else i.toInt
            modify fun s => s.setValue item.name (.indexed (es.filter fun (j, _) => (j : Int) != idx))
          | .error e => warn (e.message true); status := 1
        | _ => if key == "0" then modify fun s => s.unsetVar item.name
    | none =>
      if s.flavor == .bash && mode == ' ' then
        modify fun s => { s with functions := s.functions.filter (·.1 != n) }
  return status

/-! ### Options -/

def optionOfLetter (flavor : Flavor) (c : Char) : Option String :=
  (flavor.options.find? (·.2 == some c)).map (·.1)

def setUsage : String :=
  "set: usage: set [-abefhkmnptuvxBCEHPT] [-o option-name] [--] [-] [arg ...]"

def optionListing (s : Shell) : String :=
  match s.flavor with
  | .dash =>
    "Current option settings\n" ++ String.join (dashOptions.map fun (n, _) =>
      n ++ String.ofList (List.replicate (16 - n.length) ' ') ++ (if s.isOn n then "on" else "off") ++ "\n")
  | .bash =>
    String.join (bashOptions.map fun (n, _) =>
      n ++ String.ofList (List.replicate (15 - n.length) ' ') ++ "\t" ++ (if s.isOn n then "on" else "off") ++ "\n")

def optionCommands (s : Shell) : String :=
  String.join (s.flavor.options.map fun (n, _) =>
    "set " ++ (if s.isOn n then "-o " else "+o ") ++ n ++ "\n")

def setBuiltin (args : List String) : Sh Nat := do
  if args.isEmpty then
    listVariables
    return 0
  let flavor := (← get).flavor
  let illegal (text : String) : Sh Nat :=
    match flavor with
    | .dash => fatalIn "set" ("Illegal option " ++ text)
    | .bash => do
      warnIn "set" (text ++ ": invalid option")
      liftSys (Sys.say (← get).proc 2 (setUsage ++ "\n"))
      return 2
  let badName (name : String) : Sh Nat :=
    match flavor with
    | .dash => fatalIn "set" ("Illegal option -o " ++ name)
    | .bash => do
      warnIn "set" (name ++ ": invalid option name")
      return 1
  let rec go : Nat → List String → Sh Nat
    | 0, _ => pure 0
    | _ + 1, [] => pure 0
    | fuel + 1, arg :: rest => do
      if arg == "--" then
        modify fun s => { s with params := rest }
        return 0
      if arg == "-" then
        modify fun s => (s.setOption "xtrace" false).setOption "verbose" false
        if !rest.isEmpty then modify fun s => { s with params := rest }
        return 0
      let on := arg.startsWith "-"
      if (on || arg.startsWith "+") && arg.length > 1 then
        let letters := (arg.drop 1).toString.toList
        if letters == ['o'] then
          match rest with
          | name :: more =>
            if flavor.options.any (·.1 == name) then
              modify fun s => s.setOption name on
              go fuel more
            else badName name
          | [] =>
            let s ← get
            printTo 1 (if on then optionListing s else optionCommands s)
            return 0
        else
          for c in letters do
            match optionOfLetter flavor c with
            | some name => modify fun s => s.setOption name on
            | none => return ← illegal ((if on then "-" else "+") ++ String.singleton c)
          go fuel rest
      else
        modify fun s => { s with params := arg :: rest }
        return 0
  go (args.length + 1) args

def shoptDefaults : List (String × Bool) :=
  [("autocd", false), ("assoc_expand_once", false), ("cdable_vars", false), ("cdspell", false),
   ("checkhash", false), ("checkjobs", false), ("checkwinsize", true), ("cmdhist", true),
   ("compat31", false), ("compat32", false), ("compat40", false), ("compat41", false),
   ("compat42", false), ("compat43", false), ("compat44", false), ("complete_fullquote", true),
   ("direxpand", false), ("dirspell", false), ("dotglob", false), ("execfail", false),
   ("expand_aliases", false), ("extdebug", false), ("extglob", false), ("extquote", true),
   ("failglob", false), ("force_fignore", true), ("globasciiranges", true), ("globskipdots", true),
   ("globstar", false), ("gnu_errfmt", false), ("histappend", false), ("histreedit", false),
   ("histverify", false), ("hostcomplete", true), ("huponexit", false), ("inherit_errexit", false),
   ("interactive_comments", true), ("lastpipe", false), ("lithist", false),
   ("localvar_inherit", false), ("localvar_unset", false), ("login_shell", false),
   ("mailwarn", false), ("no_empty_cmd_completion", false), ("nocaseglob", false),
   ("nocasematch", false), ("noexpand_translation", false), ("nullglob", false),
   ("patsub_replacement", true), ("progcomp", true), ("progcomp_alias", false),
   ("promptvars", true), ("restricted_shell", false), ("shift_verbose", false),
   ("sourcepath", true), ("varredir_close", false), ("xpg_echo", false)]

def shoptBuiltin (args : List String) : Sh Nat := do
  let read := readOptions ['s', 'u', 'p', 'q', 'o'] args
  match read.rest with
  | .error _ =>
    let bad := (args.headD "").drop 1
    warnIn "shopt" ("-" ++ (bad.take 1).toString ++ ": invalid option")
    liftSys (Sys.say (← get).proc 2 "shopt: usage: shopt [-pqsu] [-o] [optname ...]\n")
    return 2
  | .ok names =>
  let letters := read.options.map (·.1)
  let setOpts := letters.contains 'o'
  let table : List String := if setOpts then bashOptions.map (·.1) else shoptDefaults.map (·.1)
  let isOn (s : Shell) (n : String) : Bool := if setOpts then s.isOn n else s.shopts.contains n
  let change (on : Bool) (n : String) (s : Shell) : Shell :=
    if setOpts then s.setOption n on
    else { s with shopts := if on then n :: s.shopts.filter (· != n) else s.shopts.filter (· != n) }
  let mut status := 0
  for n in names do
    if !table.contains n then
      warnIn "shopt" (n ++ ": invalid shell option name")
      status := 1
  if status != 0 then return status
  if letters.contains 's' || letters.contains 'u' then
    let on := letters.contains 's'
    if names.isEmpty then
      let s ← get
      for n in table do
        if isOn s n == on && !letters.contains 'q' then
          printTo 1 (n ++ String.ofList (List.replicate (15 - min 15 n.length) ' ') ++ "\t" ++ (if on then "on" else "off") ++ "\n")
      return 0
    for n in names do modify (change on n)
    return 0
  let s ← get
  let shown := if names.isEmpty then table else names
  let mut result := 0
  for n in shown do
    let on := isOn s n
    if !on then result := 1
    if letters.contains 'q' then continue
    if letters.contains 'p' then
      printTo 1 ((if setOpts then "set " ++ (if on then "-o " else "+o ") else "shopt " ++ (if on then "-s " else "-u ")) ++ n ++ "\n")
    else
      printTo 1 (n ++ String.ofList (List.replicate (15 - min 15 n.length) ' ') ++ "\t" ++ (if on then "on" else "off") ++ "\n")
  return (if names.isEmpty then 0 else result)

def letBuiltin (args : List String) : Sh Nat := do
  if args.isEmpty then
    warnIn "let" "expression expected"
    return 1
  let mut last : Int := 0
  for a in args do
    match ← arithValue a with
    | .ok v => last := v.toInt
    | .error e =>
      warnIn "let" (e.message true)
      return 1
  return (if last == 0 then 1 else 0)

end Pipework.Posix
