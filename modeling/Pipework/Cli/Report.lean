import Pipework.Run.Verdict
import Pipework.Cli.Args

/-! How `rigor run` reports a verdict. -/

namespace Pipework.Cli

open Pipework.Run

def verdictColour : Verdict → Nat
  | .pass | .expectedFail => 71
  | .fail | .unexpectedPass => 167
  | .unsupported => 179

/-- Whether the environment asks for coloured verdicts: `NO_COLOR=1` forbids colour,
otherwise `COLOR=1` asks for it. Output that goes to a terminal is never assumed. -/
def wantsColour (env : List (String × String)) : Bool :=
  env.lookup "NO_COLOR" != some "1" && env.lookup "COLOR" == some "1"

/-- Whether help and usage errors are coloured: the environment must ask for colour as for
verdicts, and also force it on output that is no terminal (`CLICOLOR_FORCE` set and not `0`),
with `NO_COLOR` unset or empty. -/
def parserColour (env : List (String × String)) : Bool :=
  wantsColour env && (env.lookup "NO_COLOR").all (·.isEmpty) &&
    (env.lookup "CLICOLOR_FORCE").any (· != "0")

def verdictLabel (v : Verdict) (colour : Bool) : String :=
  if colour then "\x1b[38;5;" ++ toString (verdictColour v) ++ "m" ++ v.name ++ "\x1b[0m" else v.name

def textReport (o : TestOutcome) (script : String) (colour : Bool) : String :=
  let head := verdictLabel o.verdict colour ++ ": " ++ script ++ "\n"
  if o.diagnostic.isEmpty then head
  else if o.diagnostic.endsWith "\n" then head ++ o.diagnostic
  else head ++ o.diagnostic ++ "\n"

def hex4 (n : Nat) : String :=
  let digit (d : Nat) : Char := "0123456789abcdef".toList.getD d '0'
  String.ofList [digit (n / 4096 % 16), digit (n / 256 % 16), digit (n / 16 % 16), digit (n % 16)]

/-- A character inside a JSON string: quote and backslash escaped, the common controls by
their letters, other controls by their code. -/
def jsonChar (c : Char) : String :=
  match c with
  | '"' => "\\\""
  | '\\' => "\\\\"
  | '\n' => "\\n"
  | '\r' => "\\r"
  | '\t' => "\\t"
  | '\x08' => "\\b"
  | '\x0c' => "\\f"
  | c => if c.toNat < 0x20 then "\\u" ++ hex4 c.toNat else String.ofList [c]

def jsonString (s : String) : String :=
  "\"" ++ String.join (s.toList.map jsonChar) ++ "\""

def jsonReport (o : TestOutcome) (script : String) : String :=
  "\x7b\n  \"diagnostic\": " ++ jsonString o.diagnostic ++ ",\n  \"script\": " ++ jsonString script ++
    ",\n  \"verdict\": " ++ jsonString o.verdict.name ++ "\n\x7d\n"

def report (format : ReportFormat) (o : TestOutcome) (script : String) (colour : Bool) : String :=
  match format with
  | .text => textReport o script colour
  | .json => jsonReport o script

def verdictStatus : Verdict → Nat
  | .fail | .unexpectedPass => 1
  | _ => 0

end Pipework.Cli
