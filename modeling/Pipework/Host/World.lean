import Pipework.Host.FileTree
import Pipework.Host.Feed

/-! The simulated machine: its file tree, the table of open file descriptions, and the processes
that run against it. -/

namespace Pipework.Host

/-- Where the bytes of an open description live. -/
inductive Backing where
  /-- A file of the tree. -/
  | node (place : Place)
  /-- A temporary file without a name. -/
  | scratch (data : ByteArray)
  /-- A pipe with everything written to it so far. -/
  | pipe (feed : Feed)
  | null
  /-- The zero device: every read gives zero bytes. -/
  | zero
  /-- A directory opened for reading. -/
  | directory (place : Place)

/-- An open file description: shared by every descriptor duplicated from it, with one
position. -/
structure Description where
  backing : Backing
  position : Nat := 0
  append : Bool := false
  readable : Bool := false
  writable : Bool := false
  /-- For a pipe whose reader stops early, how many bytes it takes in all before a writer
  is killed by the broken-pipe signal; nothing for no limit. -/
  capacity : Option Nat := none

/-- How a file is opened. -/
inductive Access where
  | read
  | truncate
  | append
  deriving Repr, DecidableEq, Inhabited

/-- The machine: its file tree, its open descriptions, the last process number, the
number of temporary names handed out, and the signals sent to processes that are waiting
for a child, each with the process it is for. -/
structure World where
  tree : FileTree
  table : Array Description := #[]
  lastPid : Nat := 4000
  temps : Nat := 0
  signals : List (Nat × Nat) := []

/-- How a process ends: with an exit code, killed by a signal, or writing `chunk` to the
descriptor `fd` without end. -/
inductive Halt where
  | exit (code : Nat)
  | signal (number : Nat)
  | endless (fd : Nat) (chunk : ByteArray)

/-- How a finished process ended, as its parent sees it. -/
inductive Status where
  | exited (code : Nat)
  | killed (signal : Nat)
  deriving Repr, DecidableEq, Inhabited

def brokenPipeSignal : Nat := 13

def killSignal : Nat := 9

/-- The status code a shell gives a finished process: its exit code, or 128 plus the signal
number. -/
def Status.shellCode : Status → Nat
  | .exited code => code
  | .killed signal => 128 + signal

def Status.code : Status → Int
  | .exited code => code
  | .killed signal => -(signal : Int)

/-- A running process: its arguments (the program name first), environment, working
directory (as text and as a place), descriptor table, process number, and the numbers of
the processes waiting for it, its parent first. -/
structure Proc where
  argv : List String
  env : List (String × String) := []
  cwd : String
  here : Place
  fds : List (Nat × Nat) := []
  pid : Nat := 0
  parents : List Nat := []

namespace Proc

def getEnv (p : Proc) (name : String) : Option String :=
  (p.env.find? (·.1 == name)).map (·.2)

def name (p : Proc) : String :=
  p.argv.headD ""

def args (p : Proc) : List String :=
  p.argv.drop 1

def descOf (p : Proc) (fd : Nat) : Option Nat :=
  (p.fds.find? (·.1 == fd)).map (·.2)

def withFd (p : Proc) (fd d : Nat) : Proc :=
  { p with fds := (fd, d) :: p.fds.filter (·.1 != fd) }

def closeFd (p : Proc) (fd : Nat) : Proc :=
  { p with fds := p.fds.filter (·.1 != fd) }

def setEnv (p : Proc) (name value : String) : Proc :=
  { p with env := (p.env.filter (·.1 != name)) ++ [(name, value)] }

end Proc

/-- Actions of a process on the machine, which may end the process. -/
abbrev Sys := ExceptT Halt (StateM World)

namespace Sys

def exit {α : Type} (code : Nat) : Sys α :=
  throw (.exit code)

def newPid : Sys Nat := do
  let w ← get
  set { w with lastPid := w.lastPid + 1 }
  return w.lastPid + 1

def padded (width n : Nat) : String :=
  let digits := toString n
  String.ofList (List.replicate (width - digits.length) '0') ++ digits

/-- The `n`-th name handed out for a temporary file or directory: `/tmp/.tmp` and `n` in six
digits. -/
def tempPath (n : Nat) : String :=
  "/tmp/.tmp" ++ padded 6 n

def tempName : Sys String := do
  let w ← get
  set { w with temps := w.temps + 1 }
  return tempPath (w.temps + 1)

def addDesc (d : Description) : Sys Nat := do
  let w ← get
  set { w with table := w.table.push d }
  return w.table.size

def desc? (i : Nat) : Sys (Option Description) :=
  return (← get).table[i]?

def setDesc (i : Nat) (d : Description) : Sys Unit :=
  modify fun w => { w with table := w.table.set! i d }

def tree : Sys FileTree :=
  return (← get).tree

def setTree (t : FileTree) : Sys Unit :=
  modify fun w => { w with tree := t }

def newPipe : Sys Nat :=
  addDesc { backing := .pipe {}, readable := true, writable := true }

def newScratch : Sys Nat :=
  addDesc { backing := .scratch .empty, readable := true, writable := true }

def newNull : Sys Nat :=
  addDesc { backing := .null, readable := true, writable := true }

def overwrite (data : ByteArray) (pos : Nat) (bytes : ByteArray) : ByteArray :=
  let front := if pos ≤ data.size then data.extract 0 pos
    else data ++ ⟨Array.replicate (pos - data.size) 0⟩
  let back := if pos + bytes.size < data.size then data.extract (pos + bytes.size) data.size
    else .empty
  front ++ bytes ++ back

def nodeData (place : Place) : Sys ByteArray := do
  match (← tree).get? place with
  | some (.file data _) => return data
  | _ => return .empty

/-- Writes bytes through a description. A write that goes past the capacity of a pipe puts
in what fits and kills the writer by the broken-pipe signal. -/
def writeDesc (i : Nat) (bytes : ByteArray) : Sys (Except OsError Unit) := do
  match ← desc? i with
  | none => return .error .badDescriptor
  | some d =>
    if !d.writable then return .error .badDescriptor
    match d.backing with
    | .pipe feed =>
      match d.capacity with
      | some room =>
        if feed.isEndless || feed.head.size + bytes.size ≤ room then
          setDesc i { d with backing := .pipe (feed.push bytes) }
          return .ok ()
        setDesc i { d with backing := .pipe (feed.push (bytes.extract 0 (room - feed.head.size))) }
        throw (.signal brokenPipeSignal)
      | none => setDesc i { d with backing := .pipe (feed.push bytes) }; return .ok ()
    | .null | .zero => return .ok ()
    | .directory _ => return .error .badDescriptor
    | .scratch data =>
      let pos := if d.append then data.size else d.position
      setDesc i { d with backing := .scratch (overwrite data pos bytes), position := pos + bytes.size }
      return .ok ()
    | .node place =>
      let t ← tree
      match t.get? place with
      | some (.file data exe) =>
        let pos := if d.append then data.size else d.position
        setTree (t.set place (.file (overwrite data pos bytes) exe))
        setDesc i { d with position := pos + bytes.size }
        return .ok ()
      | some .nullDevice => return .ok ()
      | _ => setDesc i { d with position := d.position + bytes.size }; return .ok ()

def readRestDesc (i : Nat) : Sys (Except OsError Feed) := do
  match ← desc? i with
  | none => return .error .badDescriptor
  | some d =>
    if !d.readable then return .error .badDescriptor
    match d.backing with
    | .pipe feed =>
      let rest := feed.drop d.position
      match rest.finite? with
      | some bytes => setDesc i { d with position := d.position + bytes.size }
      | none => pure ()
      return .ok rest
    | .null => return .ok {}
    | .zero => return .ok Feed.zeros
    | .directory _ => return .error .isDirectory
    | .scratch data =>
      setDesc i { d with position := max data.size d.position }
      return .ok (.ofBytes (data.extract d.position data.size))
    | .node place =>
      let data ← nodeData place
      setDesc i { d with position := max data.size d.position }
      return .ok (.ofBytes (data.extract d.position data.size))

def readLinesDesc (i n : Nat) : Sys (Except OsError ByteArray) := do
  match ← desc? i with
  | none => return .error .badDescriptor
  | some d =>
    if !d.readable then return .error .badDescriptor
    let feed ← match d.backing with
      | .pipe feed => pure (some (feed.drop d.position))
      | .null => pure (some {})
      | .zero => pure (some Feed.zeros)
      | .directory _ => pure none
      | .scratch data => pure (some (Feed.ofBytes (data.extract d.position data.size)))
      | .node place => do
        let data ← nodeData place
        pure (some (Feed.ofBytes (data.extract d.position data.size)))
    match feed with
    | none => return .error .isDirectory
    | some f =>
      let (taken, _) := Feed.takeLines n f
      setDesc i { d with position := d.position + taken.size }
      return .ok taken

def readBytesDesc (i n : Nat) : Sys (Except OsError ByteArray) := do
  match ← desc? i with
  | none => return .error .badDescriptor
  | some d =>
    if !d.readable then return .error .badDescriptor
    let feed ← match d.backing with
      | .pipe feed => pure (some (feed.drop d.position))
      | .null => pure (some {})
      | .zero => pure (some Feed.zeros)
      | .directory _ => pure none
      | .scratch data => pure (some (Feed.ofBytes (data.extract d.position data.size)))
      | .node place => do
        let data ← nodeData place
        pure (some (Feed.ofBytes (data.extract d.position data.size)))
    match feed with
    | none => return .error .isDirectory
    | some f =>
      let taken := f.take n
      setDesc i { d with position := d.position + taken.size }
      return .ok taken

def write (p : Proc) (fd : Nat) (bytes : ByteArray) : Sys (Except OsError Unit) :=
  match p.descOf fd with
  | none => return .error .badDescriptor
  | some i => writeDesc i bytes

def say (p : Proc) (fd : Nat) (text : String) : Sys Unit := do
  let _ ← write p fd text.toUTF8

def readRest (p : Proc) (fd : Nat) : Sys (Except OsError Feed) :=
  match p.descOf fd with
  | none => return .error .badDescriptor
  | some i => readRestDesc i

def readLines (p : Proc) (fd n : Nat) : Sys (Except OsError ByteArray) :=
  match p.descOf fd with
  | none => return .error .badDescriptor
  | some i => readLinesDesc i n

def readBytes (p : Proc) (fd n : Nat) : Sys (Except OsError ByteArray) :=
  match p.descOf fd with
  | none => return .error .badDescriptor
  | some i => readBytesDesc i n

/-- Opens a path for a process, as the system call does: reading needs an existing entry (a
directory may be opened for reading), writing creates a missing file in an existing
directory, and a directory cannot be written. -/
def openPath (p : Proc) (path : String) (access : Access) : Sys (Except OsError Nat) := do
  let t ← tree
  match access with
  | .read =>
    match t.lookup p.here path with
    | .error e => return .error e
    | .ok (place, node) =>
      match node with
      | .dir => return .ok (← addDesc { backing := .directory place, readable := true })
      | .nullDevice => return .ok (← addDesc { backing := .null, readable := true })
      | .zeroDevice => return .ok (← addDesc { backing := .zero, readable := true })
      | _ => return .ok (← addDesc { backing := .node place, readable := true })
  | _ =>
    match t.locate p.here path with
    | .error e => return .error e
    | .ok place =>
      let append := access == .append
      match t.get? place with
      | some .dir => return .error .isDirectory
      | some .nullDevice => return .ok (← addDesc { backing := .null, writable := true })
      | some .zeroDevice => return .ok (← addDesc { backing := .zero, writable := true })
      | some (.file data exe) =>
        if path.endsWith "/" then return .error .notDirectory
        if access == .truncate then setTree (t.set place (.file .empty exe))
        let _ := data
        return .ok (← addDesc { backing := .node place, writable := true, append })
      | some _ => return .error .permissionDenied
      | none =>
        if place.isEmpty then return .error .isDirectory
        if path.endsWith "/" then return .error .isDirectory
        setTree (t.set place (.file .empty false))
        return .ok (← addDesc { backing := .node place, writable := true, append })

def fork (p : Proc) : Sys Proc := do
  return { p with pid := ← newPid, parents := p.pid :: p.parents }

/-- Sends a signal from process `p`. Signal zero only tests that the process exists. A
signal to `p` itself ends it at once; one to a process waiting for `p` is delivered when
that process resumes. Other processes have already ended or not yet begun, so they cannot
be found. -/
def send (p : Proc) (pid signal : Nat) : Sys (Except OsError Unit) := do
  if pid == p.pid then
    if signal != 0 then throw (.signal signal)
    return .ok ()
  else if p.parents.contains pid then
    if signal != 0 then modify fun w => { w with signals := w.signals ++ [(pid, signal)] }
    return .ok ()
  else return .error .noSuchProcess

def takeSignals (pid : Nat) : Sys Unit := do
  let w ← get
  match w.signals.find? (·.1 == pid) with
  | some (_, signal) =>
    set { w with signals := w.signals.filter (·.1 != pid) }
    throw (.signal signal)
  | none => pure ()

/-- Runs the body of a process to its end and gives how it ended. A process that writes
without end to a pipe runs until its reader stops reading, so the pipe carries that
output for ever and the writer ends by the broken-pipe signal; writing without end
anywhere else exhausts the machine and the process is killed. Exit codes are taken
modulo 256. -/
def runToEnd (p : Proc) (body : Sys Nat) : Sys Status :=
  tryCatch (do let code ← body; pure (Status.exited (code % 256))) fun
    | .exit code => pure (.exited (code % 256))
    | .signal signal => pure (.killed signal)
    | .endless fd chunk => do
      match p.descOf fd with
      | none => pure (.killed killSignal)
      | some i =>
        match ← desc? i with
        | some d =>
          match d.backing with
          | .pipe feed =>
            setDesc i { d with backing := .pipe (feed.repeating chunk) }
            pure (.killed brokenPipeSignal)
          | _ => pure (.killed killSignal)
        | none => pure (.killed killSignal)

end Sys

end Pipework.Host
