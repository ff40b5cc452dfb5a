import Pipework.Text.Utf8
import Pipework.Cli.Styled

/-! The shape of the `rigor` command line: its two subcommands, their options, and the help that
describes them. -/

namespace Pipework.Cli

def programName : String := "rigor"

def programVersion : String := "0.2.0"

def programAbout : String := "Run lit-style test scripts"

/-- An option of a subcommand: its long name, an optional one-letter name, the placeholder of
its value (none for a switch), its help, the values it accepts each with its own help (empty
when it has none), and the value it has when not given. -/
structure Flag where
  long : String
  short : Option Char := none
  placeholder : Option String := none
  help : String := ""
  choices : List (String × String) := []
  default : Option String := none
  deriving Repr, DecidableEq, Inhabited

def Flag.takesValue (f : Flag) : Bool :=
  f.placeholder.isSome

def Flag.display (f : Flag) : String :=
  "--" ++ f.long ++ (match f.placeholder with
    | some p => " <" ++ p ++ ">"
    | none => "")

def Flag.hasChoiceHelp (f : Flag) : Bool :=
  f.choices.any fun (_, help) => !help.isEmpty

/-- A subcommand: its name, what it does, its one required argument with that argument's
help, and its options in the order help lists them. -/
structure Subcommand where
  name : String
  about : String
  argument : String
  argumentHelp : String
  flags : List Flag
  deriving Repr, Inhabited

def runCommand : Subcommand where
  name := "run"
  about := "Run one test script and print its verdict"
  argument := "SCRIPT"
  argumentHelp := "Test script to run"
  flags := [
    { long := "config", placeholder := some "CONFIG",
      help := "Config file (default: $RIGOR_CONFIG, then the user config directory)" },
    { long := "cwd", placeholder := some "CWD",
      help := "Working directory for the script (default: the script's directory)" },
    { long := "strategy", placeholder := some "STRATEGY", help := "How the script's lines are executed",
      choices := [("internal", "Parse and run in-process"), ("external", "Hand the script to a real shell"),
        ("tcl", "Legacy Tcl `exec` lines")],
      default := some "internal" },
    { long := "xfail", help := "The test is expected to fail" },
    { long := "unsupported", help := "Report UNSUPPORTED without running anything" },
    { long := "show-output", help := "Show the script output even when the test passes" },
    { long := "tmp-base", placeholder := some "TMP_BASE",
      help := "Temporary scripts are written next to this path" },
    { long := "output", short := some 'o', placeholder := some "OUTPUT",
      choices := [("text", ""), ("json", "")], default := some "text" }]

def parseCommand : Subcommand where
  name := "parse"
  about := "Parse a script line and print the command tree"
  argument := "LINE"
  argumentHelp := "Script line to parse"
  flags := [
    { long := "tcl", help := "Parse as a Tcl `exec` line" },
    { long := "pipefail", help := "Set pipefail on every pipeline" },
    { long := "win32", help := "Treat backslashes as literal characters" },
    { long := "render", help := "Print POSIX shell text instead of the tree" }]

def subcommands : List Subcommand :=
  [runCommand, parseCommand]

def subcommandNames : List String :=
  subcommands.map (·.name) ++ ["help"]

def Subcommand.hasLongHelp (c : Subcommand) : Bool :=
  c.flags.any Flag.hasChoiceHelp

def helpFlag (hasLong long : Bool) : Flag where
  long := "help"
  short := some 'h'
  help :=
    if !hasLong then "Print help"
    else if long then "Print help (see a summary with '-h')"
    else "Print help (see more with '--help')"

def Flag.usagePiece (f : Flag) : Styled :=
  toned .literal ("--" ++ f.long) ++ (match f.placeholder with
    | some p => toned .placeholder " " ++ toned .placeholder ("<" ++ p ++ ">")
    | none => [])

def programFlags : List Flag :=
  [{ long := "help", short := some 'h', help := "Print help" },
   { long := "version", short := some 'V', help := "Print version" }]

def programUsageWith (used : List Flag) : Styled :=
  toned .literal programName ++ plain " " ++ used.flatMap (fun f => f.usagePiece ++ plain " ") ++
    toned .placeholder "<COMMAND>"

def programUsage : Styled :=
  programUsageWith []

def Subcommand.usageName (c : Subcommand) : Styled :=
  toned .literal (programName ++ " " ++ c.name)

def Subcommand.usage (c : Subcommand) : Styled :=
  c.usageName ++ plain " " ++ toned .placeholder "[OPTIONS]" ++ plain " " ++
    toned .placeholder ("<" ++ c.argument ++ ">")

def Subcommand.usageWith (c : Subcommand) (used : List Flag) : Styled :=
  c.usageName ++ plain " " ++ used.flatMap (fun f => f.usagePiece ++ plain " ") ++
    toned .placeholder ("<" ++ c.argument ++ ">")

def pad (n : Nat) : String :=
  String.ofList (List.replicate n ' ')

/-- The bracketed notes after an option's help: its default, and its choices unless the long
help lists them one per line. -/
def Flag.notes (f : Flag) (long : Bool) : List String :=
  let dflt := match f.default with
    | some d => ["[default: " ++ d ++ "]"]
    | none => []
  let listed :=
    if f.choices.isEmpty || (long && f.hasChoiceHelp) then []
    else ["[possible values: " ++ ", ".intercalate (f.choices.map (·.1)) ++ "]"]
  dflt ++ listed

/-- The left column of an option: its one-letter name or room for one, then its long name and
placeholder. -/
def Flag.leftColumn (f : Flag) : Styled :=
  plain "  " ++ (match f.short with
    | some c => toned .literal ("-" ++ String.ofList [c]) ++ plain ", "
    | none => plain "    ") ++ f.usagePiece

def Flag.shortHelp (f : Flag) : String :=
  let notes := " ".intercalate (f.notes false)
  if notes.isEmpty then f.help else if f.help.isEmpty then notes else f.help ++ " " ++ notes

def nextLineIndent : String := pad 10

/-- The help of an option in the long help: its text, a blank line, its notes one per line,
then its choices with their help aligned, every line after the first indented. -/
def Flag.longHelp (f : Flag) : Styled :=
  let notes := "\n".intercalate (f.notes true)
  let text :=
    if notes.isEmpty then f.help else if f.help.isEmpty then notes else f.help ++ "\n\n" ++ notes
  let text := ("\n" ++ nextLineIndent).intercalate (text.splitOn "\n")
  if f.hasChoiceHelp then
    let widest := (f.choices.map fun (name, _) => name.length).foldl max 0
    let lines := f.choices.flatMap fun (name, help) =>
      plain ("\n" ++ nextLineIndent ++ "- ") ++ toned .literal name ++
        (if help.isEmpty then [] else plain (": " ++ pad (widest - name.length) ++ help))
    plain text ++ plain ((if text.isEmpty then "" else "\n\n" ++ nextLineIndent) ++ "Possible values:") ++
      lines
  else plain text

/-- Lines of a help section in the short form: each left column padded to two blanks past the
widest one (measured by `width`), then the help. -/
def shortSection (rows : List (Styled × Nat × String)) : Styled :=
  let widest := (rows.map (·.2.1)).foldl max 0
  Styled.joinWith (plain "\n") (rows.map fun (left, width, help) => left ++ plain (pad (widest - width + 2) ++ help))

def Subcommand.helpFlags (c : Subcommand) (long : Bool) : List Flag :=
  c.flags ++ [helpFlag c.hasLongHelp long]

def finishHelp (text : Styled) : Styled :=
  text.trimEnd ++ plain "\n"

def heading (name : String) : Styled :=
  toned .header name ++ plain "\n"

def usageBlock (usage : Styled) : Styled :=
  toned .usage "Usage:" ++ plain " " ++ usage ++ plain "\n\n"

def Subcommand.help (c : Subcommand) (long : Bool) : Styled :=
  let long := long && c.hasLongHelp
  let flags := c.helpFlags long
  let argument := "<" ++ c.argument ++ ">"
  let head := plain (c.about ++ "\n\n") ++ usageBlock c.usage
  if long then
    let arguments := plain "  " ++ toned .placeholder argument ++ plain ("\n" ++ nextLineIndent ++ c.argumentHelp)
    let options := Styled.joinWith (plain "\n\n")
      (flags.map fun f => f.leftColumn ++ plain ("\n" ++ nextLineIndent) ++ f.longHelp)
    finishHelp (head ++ heading "Arguments:" ++ arguments ++ plain "\n\n" ++ heading "Options:" ++ options)
  else
    let arguments := shortSection [(plain "  " ++ toned .placeholder argument, argument.length, c.argumentHelp)]
    let options := shortSection (flags.map fun f => (f.leftColumn, f.display.length, f.shortHelp))
    finishHelp (head ++ heading "Arguments:" ++ arguments ++ plain "\n\n" ++ heading "Options:" ++ options)

def programHelp : Styled :=
  let commands := shortSection (subcommands.map (fun c => (plain "  " ++ toned .literal c.name, c.name.length, c.about)) ++
    [(plain "  " ++ toned .literal "help", 4, "Print this message or the help of the given subcommand(s)")])
  let options := shortSection (programFlags.map fun f => (f.leftColumn, f.display.length, f.help))
  finishHelp (plain (programAbout ++ "\n\n") ++ usageBlock programUsage ++ heading "Commands:" ++ commands ++
    plain "\n\n" ++ heading "Options:" ++ options)

def helpUsage : Styled :=
  toned .literal (programName ++ " help") ++ plain " " ++ toned .placeholder "[COMMAND]..."

def helpCommandHelp : Styled :=
  finishHelp (plain "Print this message or the help of the given subcommand(s)\n\n" ++ usageBlock helpUsage ++
    heading "Arguments:" ++ plain "  " ++ toned .placeholder "[COMMAND]..." ++
    plain "  Print help for the subcommand(s)")

def versionText : Styled :=
  plain (programName ++ " " ++ programVersion ++ "\n")

end Pipework.Cli
