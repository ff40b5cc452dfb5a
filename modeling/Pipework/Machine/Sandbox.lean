import Pipework.Machine.Exec

/-! The machine that tests run on. -/

namespace Pipework.Machine

open Pipework.Host

def workDir : String := "/tmp/.tmp000000"

def workPlace : Place := ["tmp", ".tmp000000"]

def freshTree : FileTree :=
  let system : List (Place × Node) :=
    [(["usr"], .dir), (["usr", "bin"], .dir), (["bin"], .link ["usr", "bin"]), (["dev"], .dir),
     (["dev", "null"], .nullDevice), (["dev", "zero"], .zeroDevice),
     (["tmp"], .dir), (workPlace, .dir)]
  { entries := system ++ installedPrograms.map fun name => (["usr", "bin", name], Node.program name) }

def makeDirs (t : FileTree) (parts : List String) : FileTree :=
  (List.range parts.length).foldl (fun t i =>
    let place := workPlace ++ parts.take (i + 1)
    match t.get? place with
    | some _ => t
    | none => t.set place .dir) t

/-- A fresh machine with a test's files (their parent directories made first), its
directories, and its executable files. -/
def World.prepared (files : List (String × ByteArray)) (dirs executable : List String) : World :=
  let t := files.foldl (fun t (rel, data) =>
    let parts := pathParts rel
    (makeDirs t parts.dropLast).set (workPlace ++ parts) (.file data false)) freshTree
  let t := dirs.foldl (fun t rel => makeDirs t (pathParts rel)) t
  let t := executable.foldl (fun t rel =>
    let place := workPlace ++ pathParts rel
    match t.get? place with
    | some (.file data _) => t.set place (.file data true)
    | _ => t) t
  { tree := t }

/-- The working directory after a run: every file below it with its text, and every
directory, its path ending in a slash, with none. -/
def listing (w : World) : List (String × Option String) :=
  w.tree.entries.filterMap fun (place, node) =>
    if place.length > workPlace.length && place.take workPlace.length == workPlace then
      let rel := "/".intercalate (place.drop workPlace.length)
      match node with
      | .file data _ => some (rel, some (Pipework.Text.decodeLossy data))
      | .dir => some (rel ++ "/", none)
      | _ => none
    else none

def isNameLetter (c : Char) : Bool :=
  c.isAlphanum

/-- Replaces, in order, the working directory's path by `$CWD` and every temporary name
`/tmp/.tmp` with six letters or digits by `$TMP`. -/
def maskPaths (text : String) : String :=
  let cwd := workDir.toList
  let temp := "/tmp/.tmp".toList
  let rec go : Nat → List Char → List Char
    | 0, cs => cs
    | _ + 1, [] => []
    | fuel + 1, c :: cs =>
      if (c :: cs).take cwd.length == cwd then "$CWD".toList ++ go fuel ((c :: cs).drop cwd.length)
      else if (c :: cs).take temp.length == temp &&
          (((c :: cs).drop temp.length).take 6).all isNameLetter &&
          ((c :: cs).drop temp.length).length ≥ 6 then
        "$TMP".toList ++ go fuel ((c :: cs).drop (temp.length + 6))
      else c :: go fuel cs
  String.ofList (go (text.length + 1) text.toList)

end Pipework.Machine
