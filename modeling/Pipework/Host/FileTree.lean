import Pipework.Host.OsError
import Pipework.Host.Path

/-! The file tree of the simulated machine: a table from canonical places (the list of names from
the root) to entries. -/

namespace Pipework.Host

/-- A canonical place in the tree: the names from the root down. -/
abbrev Place := List String

/-- What an entry of the tree is. -/
inductive Node where
  /-- A regular file with its bytes, and whether it may be executed. -/
  | file (data : ByteArray) (executable : Bool)
  | dir
  /-- A symbolic link to a directory elsewhere in the tree. -/
  | link (target : Place)
  /-- The device that swallows writes and reads as empty. -/
  | nullDevice
  /-- The device that swallows writes and reads as zero bytes without end. -/
  | zeroDevice
  /-- An installed program, known by the name of its behaviour. -/
  | program (name : String)

/-- The entries of the tree. -/
structure FileTree where
  entries : List (Place × Node) := []

def Place.text (p : Place) : String :=
  "/" ++ "/".intercalate p

namespace FileTree

def get? (t : FileTree) (p : Place) : Option Node :=
  (t.entries.find? (·.1 == p)).map (·.2)

def set (t : FileTree) (p : Place) (n : Node) : FileTree :=
  if t.entries.any (·.1 == p) then
    { entries := t.entries.map fun e => if e.1 == p then (p, n) else e }
  else { entries := t.entries ++ [(p, n)] }

def erase (t : FileTree) (p : Place) : FileTree :=
  { entries := t.entries.filter (·.1 != p) }

def isDir (t : FileTree) (p : Place) : Bool :=
  p.isEmpty || match t.get? p with
    | some .dir => true
    | _ => false

def eraseBelow (t : FileTree) (place : Place) : FileTree :=
  { entries := t.entries.filter fun (q, _) => !place.isPrefixOf q }

def subtree (t : FileTree) (place : Place) : List (Place × Node) :=
  t.entries.filterMap fun (q, n) => if place.isPrefixOf q then some (q.drop place.length, n) else none

def graft (t : FileTree) (place : Place) (sub : List (Place × Node)) : FileTree :=
  sub.foldl (fun t (q, n) => t.set (place ++ q) n) t

def children (t : FileTree) (p : Place) : List (String × Node) :=
  let inside := t.entries.filterMap fun (q, n) =>
    match q.reverse with
    | name :: up => if up.reverse == p then some (name, n) else none
    | [] => none
  inside.mergeSort fun a b => decide (a.1.toUTF8.toList ≤ b.1.toUTF8.toList)

/-- The place a directory part leads to from `here`: `.` stays, `..` goes up, a link is
followed, and anything but a directory fails. -/
def step (t : FileTree) (here : Place) (part : String) : Except OsError Place :=
  if part == "." then .ok here
  else if part == ".." then .ok here.dropLast
  else
    let next := here ++ [part]
    match t.get? next with
    | some .dir => .ok next
    | some (.link target) => if t.isDir target then .ok target else .error .notDirectory
    | some _ => .error .notDirectory
    | none => .error .noEntry

def walk (t : FileTree) (here : Place) : List String → Except OsError Place
  | [] => .ok here
  | part :: rest => do
    let next ← t.step here part
    t.walk next rest

/-- The place a path text names, seen from the working directory `cwd`: every part but the
last must lead through directories; the last part is not required to exist, but a link
there is followed. -/
def locate (t : FileTree) (cwd : Place) (path : String) : Except OsError Place := do
  let start := if isAbsolute path then [] else cwd
  let parts := pathParts path
  match parts.getLast? with
  | none => .ok start
  | some last =>
    let dirPlace ← t.walk start parts.dropLast
    if last == "." then .ok dirPlace
    else if last == ".." then .ok dirPlace.dropLast
    else
      let place := dirPlace ++ [last]
      match t.get? place with
      | some (.link target) => .ok target
      | _ => .ok place

def lookup (t : FileTree) (cwd : Place) (path : String) : Except OsError (Place × Node) := do
  let place ← t.locate cwd path
  let node ← if place.isEmpty then pure Node.dir else
    match t.get? place with
    | some n => pure n
    | none => throw OsError.noEntry
  match node with
  | .dir => pure (place, node)
  | _ => if path.endsWith "/" then throw OsError.notDirectory else pure (place, node)

/-- Removes the entry a path text names, as the system's unlink does: every part but the last
must lead through directories, and the entry of the last part goes itself, a link included. A
directory is refused, and so are `.` and `..`, and a trailing slash after anything else. -/
def unlink (t : FileTree) (cwd : Place) (path : String) : Except OsError FileTree := do
  let parts := pathParts path
  match parts.getLast? with
  | none => throw (if path.isEmpty then .noEntry else .isDirectory)
  | some last =>
    let dirPlace ← t.walk (if isAbsolute path then [] else cwd) parts.dropLast
    if last == "." || last == ".." then throw .isDirectory
    let place := dirPlace ++ [last]
    match t.get? place with
    | none => throw .noEntry
    | some .dir => throw .isDirectory
    | some _ => if path.endsWith "/" then throw .notDirectory else pure (t.erase place)

def makeDir (t : FileTree) (cwd : Place) (path : String) : Except OsError FileTree := do
  let place ← t.locate cwd path
  if place.isEmpty || (t.get? place).isSome then throw OsError.alreadyExists
  pure (t.set place .dir)

def namesDir (t : FileTree) (cwd : Place) (path : String) : Bool :=
  match t.lookup cwd path with
  | .ok (_, .dir) => true
  | _ => false

def makeDirOrKeep (t : FileTree) (cwd : Place) (path : String) : Except OsError FileTree :=
  match t.makeDir cwd path with
  | .ok t' => .ok t'
  | .error e => if t.namesDir cwd path then .ok t else .error e

/-- Makes a directory and every missing directory above it, as a recursive directory
creation does: a part that exists as a directory is fine, any other failure is reported.
`depth` bounds the number of parts. -/
def makeDirAll (t : FileTree) (cwd : Place) : Nat → String → Except OsError FileTree
  | 0, _ => .error .noEntry
  | depth + 1, path =>
    if path.isEmpty then .ok t
    else
      match t.makeDir cwd path with
      | .ok t' => .ok t'
      | .error .noEntry =>
        match parentPath path with
        | none => .error .noEntry
        | some up =>
          match t.makeDirAll cwd depth up with
          | .ok t' => t'.makeDirOrKeep cwd path
          | .error e => .error e
      | .error e => if t.namesDir cwd path then .ok t else .error e

end FileTree

end Pipework.Host
