import Pipework.Cli.Interface
import Pipework.Cli.Styled
import Pipework.Text.Jaro

/-! Reading the `rigor` command line into a request. -/

namespace Pipework.Cli

open Pipework.Text

/-- How a reading of the command line went wrong. -/
inductive UsageError where
  /-- A word that is no option here; tips follow the message. -/
  | unknownArgument (word : String) (tips : List Styled) (usage : Styled)
  /-- A word in the subcommand's place that names none; similar names follow. -/
  | unknownSubcommand (word : String) (similar : List String) (usage : Styled)
  /-- An option given no value, or an empty one. -/
  | missingValue (display : String) (choices : List String)
  /-- A value an option does not accept. -/
  | invalidValue (value display : String) (choices : List String)
  /-- An option given twice. -/
  | repeated (display : String) (usage : Styled)
  /-- A value given to a switch. -/
  | unneededValue (value display : String) (usage : Styled)
  /-- The subcommand's argument is missing. -/
  | missingArgument (argument : String) (usage : Styled)
  deriving Repr, DecidableEq

def tipLines (tips : List Styled) : Styled :=
  match tips with
  | [] => []
  | _ => plain "\n" ++ tips.flatMap fun t => plain "\n  " ++ toned .valid "tip:" ++ plain " " ++ t

def quotedValid (word : String) : Styled :=
  plain "'" ++ toned .valid word ++ plain "'"

def choicesLine (choices : List String) : Styled :=
  if choices.isEmpty then []
  else plain "\n  [possible values: " ++ Styled.joinWith (plain ", ") (choices.map (toned .valid)) ++ plain "]"

def similarTip (kind : String) (similar : List String) : List Styled :=
  match similar with
  | [] => []
  | [one] => [plain ("a similar " ++ kind ++ " exists: ") ++ quotedValid one]
  | many => [plain ("some similar " ++ kind ++ "s exist: ") ++ Styled.joinWith (plain ", ") (many.map quotedValid)]

def similarArgumentTip (long : String) : Styled :=
  plain "a similar argument exists: " ++ quotedValid ("--" ++ long)

def escapeTip (word : String) : Styled :=
  plain "to pass '" ++ toned .invalid word ++ plain "' as a value, use '" ++ toned .valid ("-- " ++ word) ++
    plain "'"

def closing (usage : Option Styled) : Styled :=
  (match usage with
    | some u => plain "\n\n" ++ toned .usage "Usage:" ++ plain " " ++ u
    | none => []) ++ plain "\n\nFor more information, try '" ++ toned .literal "--help" ++ plain "'.\n"

def UsageError.message (e : UsageError) : Styled :=
  toned .error "error:" ++ plain " " ++ match e with
  | .unknownArgument word tips usage =>
    plain "unexpected argument '" ++ toned .invalid word ++ plain "' found" ++ tipLines tips ++
      closing (some usage)
  | .unknownSubcommand word similar usage =>
    plain "unrecognized subcommand '" ++ toned .invalid word ++ plain "'" ++
      tipLines (similarTip "subcommand" similar) ++ closing (some usage)
  | .missingValue display choices =>
    plain "a value is required for '" ++ toned .literal display ++ plain "' but none was supplied" ++
      choicesLine choices ++ closing none
  | .invalidValue value display choices =>
    plain "invalid value '" ++ toned .invalid value ++ plain "' for '" ++ toned .literal display ++ plain "'" ++
      choicesLine choices ++ tipLines (similarTip "value" (closestWord? value choices).toList) ++ closing none
  | .repeated display usage =>
    plain "the argument '" ++ toned .invalid display ++ plain "' cannot be used multiple times" ++
      closing (some usage)
  | .unneededValue value display usage =>
    plain "unexpected value '" ++ toned .invalid value ++ plain "' for '" ++ toned .literal display ++
      plain "' found; no more were expected" ++ closing (some usage)
  | .missingArgument argument usage =>
    plain "the following required arguments were not provided:\n  " ++ toned .valid ("<" ++ argument ++ ">") ++
      closing (some usage)

/-- A word read but not yet filed: an option with its value (none while the value is still to
come), or the subcommand's argument. It is filed when the next option or argument is read, or
when the words end; a fault in it then stops the reading, unless the next word is itself
refused, whose fault then stands. -/
inductive Pending where
  | option (f : Flag) (value : Option String)
  | argument (word : String)

/-- What a subcommand's words gave: the options in the order given (a switch with the value
`true`), its argument, whether `--` was seen, and the word not yet filed. -/
structure Matched where
  given : List (Flag × String) := []
  argument : Option String := none
  escaped : Bool := false
  pending : Option Pending := none

def Matched.used (m : Matched) : List Flag :=
  m.given.foldl (fun acc (f, _) => if acc.contains f then acc else acc ++ [f]) []

def Matched.value? (m : Matched) (long : String) : Option String :=
  (m.given.find? fun (f, _) => f.long == long).map (·.2)

def Matched.has (m : Matched) (long : String) : Bool :=
  (m.value? long).isSome

def Matched.hasArgument (m : Matched) : Bool :=
  m.argument.isSome || match m.pending with
    | some (.argument _) => true
    | _ => false

def Matched.waiting (m : Matched) : Option Flag :=
  match m.pending with
  | some (.option f none) => some f
  | _ => none

/-- What reading a subcommand's words ends in: its options and argument, or the help it asked
for (long or short), or an error. -/
inductive Reading where
  | matched (m : Matched)
  | help (long : Bool)
  | failed (e : UsageError)

/-- Whether a word starts a new option rather than being a value: it starts with a dash and
is more than a dash. -/
def startsOption (word : String) : Bool :=
  word.startsWith "-" && word != "-"

def Flag.choiceNames (f : Flag) : List String :=
  f.choices.map (·.1)

/-- Files an option with its value: an option given before is refused, a missing or empty
value too, and one outside the choices. -/
def Subcommand.fileOption (c : Subcommand) (m : Matched) (f : Flag) (value : Option String) :
    Except UsageError Matched := do
  let some value := value | throw (.missingValue f.display f.choiceNames)
  if m.has f.long then throw (.repeated f.display c.usage)
  if f.takesValue && value.isEmpty then throw (.missingValue f.display f.choiceNames)
  if !f.choices.isEmpty && !f.choiceNames.contains value then
    throw (.invalidValue value f.display f.choiceNames)
  return { m with given := m.given ++ [(f, value)] }

def Subcommand.fileArgument (c : Subcommand) (m : Matched) (word : String) :
    Except UsageError Matched := do
  if word.isEmpty && c.argument == "SCRIPT" then throw (.missingValue ("<" ++ c.argument ++ ">") [])
  return { m with argument := some word }

def Subcommand.resolve (c : Subcommand) (m : Matched) : Except UsageError Matched :=
  match m.pending with
  | none => .ok m
  | some (.option f value) => c.fileOption { m with pending := none } f value
  | some (.argument word) => c.fileArgument { m with pending := none } word

/-- Files the word not yet filed when it can be, and drops it when it cannot: what is done
before a refusal of the word after it. -/
def Subcommand.settle (c : Subcommand) (m : Matched) : Matched :=
  match c.resolve m with
  | .ok m => m
  | .error _ => { m with pending := none }

/-- The options and argument filed, as a usage line names them: the usage with `[OPTIONS]`
when there are none. -/
def Subcommand.usageFor (c : Subcommand) (m : Matched) (used : List Flag) : Styled :=
  if used.isEmpty && m.argument.isNone then c.usage else c.usageWith used

/-- The refusal of an unknown long option: the most similar long option of the subcommand is
suggested (and counted as used), else the tip to pass the word after `--`. -/
def Subcommand.unknownLong (c : Subcommand) (m : Matched) (name : String) : UsageError :=
  let m := c.settle m
  let flags := c.flags ++ [helpFlag c.hasLongHelp false]
  let word := "--" ++ name
  match closestWord? name (flags.map (·.long)) with
  | some similar =>
    let used := match flags.find? (·.long == similar) with
      | some f => if m.used.contains f then m.used else m.used ++ [f]
      | none => m.used
    .unknownArgument word [similarArgumentTip similar] (c.usageFor m used)
  | none => .unknownArgument word [escapeTip word] (c.usageFor m m.used)

def Subcommand.afterResolving (c : Subcommand) (m : Matched)
    (next : Matched → Except Reading Matched) : Except Reading Matched :=
  match c.resolve m with
  | .ok m => next m
  | .error e => .error (.failed e)

def Subcommand.fileNow (c : Subcommand) (m : Matched) (f : Flag) (value : String) :
    Except Reading Matched :=
  c.afterResolving m fun m =>
    match c.fileOption m f (some value) with
    | .ok m => .ok m
    | .error e => .error (.failed e)

/-- Reads a cluster of one-letter options after its dash: help, a known letter (an option
whose value is the rest of the cluster, after an optional `=`, or the next word), or an
unknown letter. -/
def Subcommand.readShort (c : Subcommand) (m : Matched) (letters : List Char) : Except Reading Matched :=
  match letters with
  | [] => .ok m
  | l :: more =>
    if l == 'h' then c.afterResolving m fun _ => .error (.help false)
    else
      match c.flags.find? (·.short == some l) with
      | none =>
        let word := "-" ++ String.ofList [l]
        .error (.failed (.unknownArgument word [escapeTip word] c.usage))
      | some f =>
        if f.takesValue then
          match more with
          | '=' :: cs => c.fileNow m f (String.ofList cs)
          | [] => c.afterResolving m fun m => .ok { m with pending := some (.option f none) }
          | cs => c.fileNow m f (String.ofList cs)
        else
          c.afterResolving m fun m =>
            match c.fileOption m f (some "true") with
            | .ok m => c.readShort m more
            | .error e => .error (.failed e)

def Subcommand.readLong (c : Subcommand) (m : Matched) (word : String) : Except Reading Matched :=
  let body := (word.drop 2).toString
  let (name, attached) := match body.splitOn "=" with
    | [] => ("", none)
    | [n] => (n, none)
    | n :: vs => (n, some ("=".intercalate vs))
  let help := helpFlag c.hasLongHelp false
  match (c.flags ++ [help]).find? (·.long == name) with
  | none => .error (.failed (c.unknownLong m name))
  | some f =>
    if f.takesValue then
      match attached with
      | some v => c.fileNow m f v
      | none => c.afterResolving m fun m => .ok { m with pending := some (.option f none) }
    else
      match attached with
      | some v =>
        let used := if m.used.contains f then m.used else m.used ++ [f]
        .error (.failed (.unneededValue v f.display (c.usageWith used)))
      | none =>
        c.afterResolving m fun m =>
          if f.long == "help" then .error (.help true)
          else
            match c.fileOption m f (some "true") with
            | .ok m => .ok m
            | .error e => .error (.failed e)

/-- Reads a word that is no option: the value an option waits for, else the subcommand's
argument; a second argument is refused. -/
def Subcommand.readPlain (c : Subcommand) (m : Matched) (word : String) : Except Reading Matched :=
  match m.waiting with
  | some f => .ok { m with pending := some (.option f (some word)) }
  | none =>
    if m.hasArgument then
      .error (.failed (.unknownArgument word [] c.usage))
    else c.afterResolving m fun m => .ok { m with pending := some (.argument word) }

/-- Reads the words of a subcommand; `fuel` bounds the number of steps. At the end the word
not yet filed is filed. -/
def Subcommand.readWords (c : Subcommand) : Nat → Matched → List String → Reading
  | 0, m, _ => .matched m
  | _ + 1, m, [] =>
    match c.resolve m with
    | .ok m => .matched m
    | .error e => .failed e
  | fuel + 1, m, word :: rest =>
    let step : Except Reading Matched :=
      if m.escaped then c.readPlain m word
      else if word == "--" then .ok { m with escaped := true }
      else if word.startsWith "--" then c.readLong m word
      else if startsOption word then c.readShort m (word.drop 1).toString.toList
      else c.readPlain m word
    match step with
    | .ok m => c.readWords fuel m rest
    | .error r => r

/-- What the `parse` subcommand is asked to do: the line, whether it is a Tcl `exec` line,
whether pipelines fail when any command fails, whether backslashes are literal, and whether
to print shell text instead of the tree. -/
structure ParseRequest where
  line : String
  tcl : Bool := false
  pipefail : Bool := false
  win32 : Bool := false
  render : Bool := false
  deriving Repr, DecidableEq

/-- How `run` prints its verdict. -/
inductive ReportFormat where
  | text
  | json
  deriving Repr, DecidableEq

/-- How `run` executes a script's lines. -/
inductive StrategyChoice where
  | internal
  | external
  | tcl
  deriving Repr, DecidableEq

/-- What the `run` subcommand is asked to do. -/
structure RunRequest where
  script : String
  config : Option String := none
  cwd : Option String := none
  strategy : StrategyChoice := .internal
  expectFailure : Bool := false
  unsupported : Bool := false
  showOutput : Bool := false
  tmpBase : Option String := none
  format : ReportFormat := .text
  deriving Repr, DecidableEq

/-- What the command line asks for. -/
inductive Request where
  | run (r : RunRequest)
  | parse (r : ParseRequest)
  /-- Text for standard output, after which the program succeeds: help or the version. -/
  | inform (text : Styled)
  /-- Text for standard error, after which the program fails with status 2. -/
  | refuse (text : Styled)
  deriving Repr, DecidableEq

def runRequestOf (m : Matched) (script : String) : RunRequest where
  script := script
  config := m.value? "config"
  cwd := m.value? "cwd"
  strategy := match m.value? "strategy" with
    | some "external" => .external
    | some "tcl" => .tcl
    | _ => .internal
  expectFailure := m.has "xfail"
  unsupported := m.has "unsupported"
  showOutput := m.has "show-output"
  tmpBase := m.value? "tmp-base"
  format := if m.value? "output" == some "json" then .json else .text

def parseRequestOf (m : Matched) (line : String) : ParseRequest :=
  { line, tcl := m.has "tcl", pipefail := m.has "pipefail", win32 := m.has "win32",
    render := m.has "render" }

def Subcommand.request (c : Subcommand) (words : List String) : Request :=
  match c.readWords (words.length + 1) {} words with
  | .help long => .inform (c.help long)
  | .failed e => .refuse e.message
  | .matched m =>
    match m.argument with
    | none => .refuse (UsageError.missingArgument c.argument (c.usageWith m.used)).message
    | some arg => if c.name == "run" then .run (runRequestOf m arg) else .parse (parseRequestOf m arg)

def helpRequest (names : List String) : Request :=
  match names with
  | [] => .inform programHelp
  | name :: more =>
    match subcommands.find? (·.name == name) with
    | some c =>
      match more with
      | [] => .inform (c.help true)
      | extra :: _ => .refuse (UsageError.unknownSubcommand extra [] c.usage).message
    | none =>
      if name == "help" then
        match more with
        | [] => .inform helpCommandHelp
        | extra :: _ => .refuse (UsageError.unknownSubcommand extra [] helpUsage).message
      else .refuse (UsageError.unknownSubcommand name [] programUsage).message

def unknownCommand (word : String) : Request :=
  .refuse (UsageError.unknownSubcommand word (similarWords word subcommandNames) programUsage).message

/-- The refusal of an unknown long option before the subcommand: a similar program option is
suggested (and named in the usage line), else a similar option of a subcommand named later on
the line. -/
def unknownProgramLong (name : String) (later : List String) : Request :=
  let word := "--" ++ name
  match programFlags.find? fun f => closestWord? name (programFlags.map (·.long)) == some f.long with
  | some f =>
    .refuse (UsageError.unknownArgument word [similarArgumentTip f.long] (programUsageWith [f])).message
  | none =>
    let offers := subcommands.filterMap fun c =>
      match closestWord? name ((c.flags ++ [helpFlag c.hasLongHelp false]).map (·.long)), later.idxOf? c.name with
      | some similar, some place =>
        some (place, plain "'" ++ toned .valid (c.name ++ " --" ++ similar) ++ plain "' exists")
      | _, _ => none
    let tips := match (offers.mergeSort fun a b => a.1 ≤ b.1).head? with
      | some (_, tip) => [tip]
      | none => []
    .refuse (UsageError.unknownArgument word tips programUsage).message

/-- What a program option asks for: help or the version, or the refusal of a value given to
it. -/
def programOption (f : Flag) (attached : Option String) : Request :=
  match attached with
  | some v => .refuse (UsageError.unneededValue v f.display (programUsageWith [f])).message
  | none => .inform (if f.long == "help" then programHelp else versionText)

def Request.ofArgs (args : List String) : Request :=
  match args with
  | [] => .refuse programHelp
  | word :: rest =>
    if word == "--" then
      match rest with
      | [] => .refuse programHelp
      | next :: _ =>
        if subcommandNames.contains next then
          let tip := plain "subcommand '" ++ toned .valid next ++ plain "' exists; to use it, remove the '" ++
            toned .invalid "--" ++ plain "' before it"
          .refuse (UsageError.unknownArgument next [tip] programUsage).message
        else unknownCommand next
    else if word.startsWith "--" then
      let (name, attached) := match (word.drop 2).toString.splitOn "=" with
        | [] => ("", none)
        | [n] => (n, none)
        | n :: vs => (n, some ("=".intercalate vs))
      match programFlags.find? (·.long == name) with
      | some f => programOption f attached
      | none => unknownProgramLong name rest
    else if startsOption word then
      match (word.drop 1).toString.toList with
      | 'h' :: _ => .inform programHelp
      | 'V' :: _ => .inform versionText
      | l :: _ => .refuse (UsageError.unknownArgument ("-" ++ String.ofList [l]) [] programUsage).message
      | [] => unknownCommand word
    else if word == "help" then helpRequest rest
    else
      match subcommands.find? (·.name == word) with
      | some c => c.request rest
      | none => unknownCommand word

end Pipework.Cli
