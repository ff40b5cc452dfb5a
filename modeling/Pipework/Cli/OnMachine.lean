import Pipework.Cli.Session

/-! A call of `rigor` on a fresh machine, with its working directory listed afterwards. -/

namespace Pipework.Cli

open Pipework.Host Pipework.Machine

/-- A call as it arrives: its arguments, the files, directories and executable files of its
working directory, and its environment. -/
structure Call where
  args : List String
  files : List (String × ByteArray) := []
  dirs : List String := []
  executable : List String := []
  env : List (String × String) := []

/-- The environment a call starts from: the search path, no colour, and a settings file that
does not exist. -/
def baseEnvironment : List (String × String) :=
  [("PATH", "/usr/bin:/bin"), ("NO_COLOR", "1"), ("RIGOR_CONFIG", "no-such-config.toml")]

/-- The environment of a call: the starting one with the changes made in order. A variable
changed to none, or `NO_COLOR` changed to the empty text, is removed. -/
def callEnvironment (changes : List (String × Option String)) : List (String × String) :=
  changes.foldl (fun env (name, value) =>
    let rest := env.filter (·.1 != name)
    match value with
    | some v => if name == "NO_COLOR" && v.isEmpty then rest else rest ++ [(name, v)]
    | none => rest) baseEnvironment

/-- What a call gives: the program's reply, and the listing of the working directory
afterwards. -/
structure CallResult where
  reply : Reply
  files : List (String × Option String)

def Call.run (c : Call) : CallResult :=
  let world := World.prepared c.files c.dirs c.executable
  let (r, after) := (((Request.ofArgs c.args).reply (Run.sortedEnvironment c.env)).run.run world).run
  let reply := match r with
    | .ok reply => reply
    | .error (.exit code) => { status := code }
    | .error _ => { status := 2 }
  { reply, files := listing after }

/-- The files a request reads, by the paths it names them: the script and the settings files
of a `run` request. -/
def Request.namedFiles (req : Request) (env : List (String × String)) : List String :=
  match req with
  | .run r => [r.script] ++ r.config.toList ++ (env.lookup "RIGOR_CONFIG").toList
  | _ => []

end Pipework.Cli
