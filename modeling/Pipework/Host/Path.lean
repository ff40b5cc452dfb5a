/-! Path texts as programs write them. -/

namespace Pipework.Host

def isAbsolute (p : String) : Bool :=
  p.startsWith "/"

def pathParts (p : String) : List String :=
  (p.splitOn "/").filter (· ≠ "")

/-- `rel` appended to `base`: an absolute `rel` replaces `base`; otherwise one slash separates
them unless `base` is empty or already ends with one. An empty `rel` leaves a trailing slash. -/
def joinPath (base rel : String) : String :=
  if isAbsolute rel then rel
  else if base.isEmpty || base.endsWith "/" then base ++ rel
  else base ++ "/" ++ rel

def dropTrailingSlashes (p : String) : String :=
  let kept := (p.toList.reverse.dropWhile (· == '/')).reverse
  if kept.isEmpty && isAbsolute p then "/" else String.ofList kept

/-- The text of a path without its last part, or nothing for the root and the empty path. A
path of one relative part has the empty parent. -/
def parentPath (p : String) : Option String :=
  let trimmed := (p.toList.reverse.dropWhile (· == '/'))
  if trimmed.isEmpty then none
  else
    let head := trimmed.dropWhile (· != '/')
    match head with
    | [] => some ""
    | _ =>
      let rest := (head.dropWhile (· == '/')).reverse
      if rest.isEmpty then some "/" else some (String.ofList rest)

def fileName (p : String) : String :=
  (pathParts p).getLast?.getD ""

/-- A path made absolute against `cwd` without resolving it: the parts of `p` are appended to
`cwd` (or to the root when `p` is absolute), single-dot parts and repeated slashes dropped,
`..` parts kept, and a trailing slash of `p` kept. -/
def absolutePath (cwd p : String) : String :=
  let parts := (pathParts p).filter (· ≠ ".")
  let base := if isAbsolute p then "/" else cwd
  let joined := parts.foldl joinPath base
  if p.endsWith "/" && !parts.isEmpty then joined ++ "/" else joined

end Pipework.Host
