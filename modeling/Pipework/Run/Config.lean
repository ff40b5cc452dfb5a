import Pipework.Text.Toml
import Pipework.Text.Blank
import Pipework.Text.Utf8

/-! Run settings of the engine, and the host it runs on. -/

namespace Pipework.Run

open Pipework.Text

/-- The settings of a run. Options left unset defer to the host's own kind. -/
structure RunConfig where
  skipExecution : Bool := false
  isWindowsHost : Option Bool := none
  ignoreStderrAsFailure : Bool := false
  alwaysShowOutput : Bool := false
  externalShellPath : Option String := none
  instrumentationArgs : List String := []
  legacyViaExternalShell : Bool := false
  avoidDevNull : Option Bool := none
  deriving Repr, DecidableEq, Inhabited

def RunConfig.fieldNames : List String :=
  ["skip_execution", "is_windows_host", "ignore_stderr_as_failure", "always_show_output",
   "external_shell_path", "instrumentation_args", "legacy_via_external_shell", "avoid_dev_null"]

/-- How a float is named: its shortest decimal text, with `.0` added to a finite one
written without a point. -/
def floatText (x : Pipework.Binary.Double) : String :=
  let t := x.text
  if x.isFinite && !t.contains '.' then t ++ ".0" else t

/-- How a value of a document is named when it is not what a setting takes. Date-times and
inline tables read as maps, arrays as sequences. -/
def describeValue : Toml.Value → String
  | .bool b => "boolean `" ++ toString b ++ "`"
  | .str s => "string " ++ literal s
  | .int n => "integer `" ++ toString n ++ "`"
  | .float x => "floating point `" ++ floatText x ++ "`"
  | .datetime => "map"
  | .array _ => "sequence"
  | .inline .. => "map"

def describeItem : Toml.Item → String
  | .value v _ => describeValue v
  | .table .. => "map"
  | .tables _ => "sequence"

def wrongKind {α : Type} (place : Toml.Extent) (item : Toml.Item) (expected : String) :
    Except Toml.Problem α :=
  .error ⟨some place, "invalid type: " ++ describeItem item ++ ", expected " ++ expected⟩

def fieldList : String :=
  ", ".intercalate (RunConfig.fieldNames.map fun n => "`" ++ n ++ "`")

def switchOf (place : Toml.Extent) : Toml.Item → Except Toml.Problem Bool
  | .value (.bool b) _ => .ok b
  | item => wrongKind place item "a boolean"

def argumentOf (place : Toml.Extent) : Toml.Item → Except Toml.Problem String
  | .value (.str s) _ => .ok s
  | item => wrongKind place item "a string"

/-- Sets one setting from a top-level entry of a document, refusing an unknown name (at the
key) and an item of the wrong kind (at the item, or at the key when the item has no place of
its own, or at the element of a list). -/
def RunConfig.set (c : RunConfig) (entry : Toml.Key × Toml.Item) : Except Toml.Problem RunConfig := do
  let (key, item) := entry
  let place := item.place?.getD key.place
  match key.name with
  | "skip_execution" => return { c with skipExecution := ← switchOf place item }
  | "is_windows_host" => return { c with isWindowsHost := some (← switchOf place item) }
  | "ignore_stderr_as_failure" => return { c with ignoreStderrAsFailure := ← switchOf place item }
  | "always_show_output" => return { c with alwaysShowOutput := ← switchOf place item }
  | "external_shell_path" =>
    match item with
    | .value (.str s) _ => return { c with externalShellPath := some s }
    | _ => wrongKind place item "path string"
  | "instrumentation_args" =>
    match item with
    | .value (.array items) _ =>
      let args ← items.mapM fun (v, valueAt) => argumentOf valueAt (.value v valueAt)
      return { c with instrumentationArgs := args }
    | .tables elements =>
      let args ← elements.mapM fun element => argumentOf (element.place?.getD place) element
      return { c with instrumentationArgs := args }
    | _ => wrongKind place item "a sequence"
  | "legacy_via_external_shell" => return { c with legacyViaExternalShell := ← switchOf place item }
  | "avoid_dev_null" => return { c with avoidDevNull := some (← switchOf place item) }
  | other => throw ⟨some key.place, "unknown field `" ++ other ++ "`, expected one of " ++ fieldList⟩

/-- The settings a TOML document gives, unset settings keeping their defaults, or the first
problem of the document: its syntax is checked before any setting is read. -/
def RunConfig.decode (text : String) : Except Toml.Problem RunConfig := do
  let entries ← Toml.parse text
  entries.foldlM RunConfig.set {}

def RunConfig.ofToml (text : String) : Option RunConfig :=
  (RunConfig.decode text).toOption

/-- A switch read from an environment variable: after trimming and ignoring case, `1`,
`true`, `yes` and `on` switch it on, `0`, `false`, `no` and `off` off; anything else leaves
the setting alone. -/
def flagValue? (value : String) : Option Bool :=
  match (trimBlank value).toLower with
  | "1" | "true" | "yes" | "on" => some true
  | "0" | "false" | "no" | "off" => some false
  | _ => none

/-- Applies the environment's overrides: a non-empty `RIGOR_SHELL` names the external shell,
and `RIGOR_NO_EXECUTE` and `RIGOR_IGNORE_STDERR` switch execution and the error policy. -/
def RunConfig.withEnv (c : RunConfig) (env : String → Option String) : RunConfig :=
  let c := match env "RIGOR_SHELL" with
    | some shell => if shell.isEmpty then c else { c with externalShellPath := some shell }
    | none => c
  let c := match (env "RIGOR_NO_EXECUTE").bind flagValue? with
    | some skip => { c with skipExecution := skip }
    | none => c
  match (env "RIGOR_IGNORE_STDERR").bind flagValue? with
  | some ignore => { c with ignoreStderrAsFailure := ignore }
  | none => c

/-- What kind of host runs the scripts: whether it is Windows, and whether programs must be
given a scratch file in place of the null device. -/
structure HostProfile where
  isWindows : Bool := false
  avoidDevNull : Bool := false
  deriving Repr, DecidableEq, Inhabited

/-- The host a run assumes: this host unless the settings say it is Windows (which also
avoids the null device), with the null-device choice overridable on its own. -/
def RunConfig.host (c : RunConfig) : HostProfile :=
  let h : HostProfile := {}
  let h := match c.isWindowsHost with
    | some w => { isWindows := w, avoidDevNull := w }
    | none => h
  match c.avoidDevNull with
  | some a => { h with avoidDevNull := a }
  | none => h

end Pipework.Run
