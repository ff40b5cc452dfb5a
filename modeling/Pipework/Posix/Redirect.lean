import Pipework.Posix.Expand

/-! Redirections: each opens a file, duplicates a descriptor or feeds a here-document to a
descriptor of the shell's process, in the order written. -/

namespace Pipework.Posix

open Pipework.Host Pipework.Tools

/-- Opens the target of one redirection for a process: the process with its descriptors
changed, or the shell's message. With `noclobber`, `>` refuses to overwrite an existing
regular file. -/
def openRedir (p : Proc) (fd : Nat) (op : RedirOp) (target : String) (bash noclobber : Bool) :
    Sys (Except String Proc) := do
  let cannot (verb : String) (text : OsError → String) (e : OsError) : String :=
    if bash then target ++ ": " ++ e.description else verb ++ " " ++ target ++ ": " ++ text e
  let writeTo (access : Access) (fds : List Nat) : Sys (Except String Proc) := do
    match ← Sys.openPath p target access with
    | .ok d => pure (.ok (fds.foldl (fun q f => q.withFd f d) p))
    | .error e => pure (.error (cannot "cannot create" createErrorText e))
  match op with
  | .input =>
    match ← Sys.openPath p target .read with
    | .ok d => pure (.ok (p.withFd fd d))
    | .error e => pure (.error (cannot "cannot open" openErrorText e))
  | .readWrite =>
    match ← Sys.openPath p target .read with
    | .ok d =>
      if let some desc ← Sys.desc? d then Sys.setDesc d { desc with writable := true }
      pure (.ok (p.withFd fd d))
    | .error .noEntry =>
      match ← Sys.openPath p target .append with
      | .ok d =>
        if let some desc ← Sys.desc? d then Sys.setDesc d { desc with readable := true, append := false }
        pure (.ok (p.withFd fd d))
      | .error e => pure (.error (cannot "cannot create" createErrorText e))
    | .error e => pure (.error (cannot "cannot open" openErrorText e))
  | .output =>
    let t ← Sys.tree
    let present := match t.lookup p.here target with
      | .ok (_, .file _ _) => true
      | _ => false
    if noclobber && present then
      pure (.error (if bash then target ++ ": cannot overwrite existing file"
        else "cannot create " ++ target ++ ": File exists"))
    else writeTo .truncate [fd]
  | .clobber => writeTo .truncate [fd]
  | .append => writeTo .append [fd]
  | .both => writeTo .truncate [1, 2]
  | .bothAppend => writeTo .append [1, 2]
  | .hereDoc _ | .hereString =>
    let d ← Sys.addDesc { backing := .scratch target.toUTF8, readable := true }
    pure (.ok (p.withFd fd d))
  | .dupInput | .dupOutput =>
    if target == "-" then pure (.ok (p.closeFd fd))
    else match parseNat? target with
      | some n =>
        match p.descOf n with
        | some d => pure (.ok (p.withFd fd d))
        | none => pure (.error (target ++ ": Bad file descriptor"))
      | none =>
        if bash && op == .dupOutput then writeTo .truncate [1, 2]
        else if bash then pure (.error (target ++ ": ambiguous redirect"))
        else pure (.error "Syntax error: Bad fd number")

def redirText (run : String → Sh String) (r : Redir) : Sh String := do
  let text ← expandText run r.target
  return match r.op with
    | .hereString => text ++ "\n"
    | _ => text

def applyRedirs (run : String → Sh String) : List Redir → Sh (Option String)
  | [] => pure none
  | r :: rest => do
    let target ← redirText run r
    let s ← get
    let fd := r.fd.getD r.op.defaultFd
    match ← liftSys (openRedir s.proc fd r.op target (s.flavor == .bash) (s.isOn "noclobber")) with
    | .error message => pure (some message)
    | .ok p =>
      modify fun s => { s with proc := p }
      applyRedirs run rest

def restoreFds (fds : List (Nat × Nat)) : Sh Unit :=
  modify fun s => { s with proc := { s.proc with fds } }

def keepingFds {α : Type} (fds : List (Nat × Nat)) (x : Sh α) : Sh α := do
  let r ← tryCatch x fun e => do
    restoreFds fds
    throw e
  restoreFds fds
  return r

end Pipework.Posix
