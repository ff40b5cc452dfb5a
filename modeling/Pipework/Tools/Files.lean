import Pipework.Tools.Sort

/-! The programs that change the file tree: `touch`, `mkdir`, `rmdir`, `rm`, `cp`, `mv`, and `ls`,
which lists it. -/

namespace Pipework.Tools

open Pipework.Host

def touchProgram : Program := fun _ p => do
  let spec : OptSpec := {
    shorts := [('a', .none), ('c', .none), ('m', .none), ('d', .required), ('r', .required), ('t', .required)]
    longs := [⟨"no-create", .none, "c"⟩, ⟨"date", .required, "d"⟩, ⟨"reference", .required, "r"⟩] }
  match ← touchManual.options p spec p.args with
  | .error e => usageError p e
  | .ok parsed =>
    if parsed.operands.isEmpty then return ← usageError p "missing file operand"
    let mut failed := false
    for name in parsed.operands do
      match (← Sys.tree).lookup p.here name with
      | .ok _ => pure ()
      | .error .noEntry =>
        if !parsed.has "c" then
          match ← Sys.openPath p name .append with
          | .ok _ => pure ()
          | .error e => complain p ("cannot touch " ++ quoteFile name ++ ": " ++ e.description); failed := true
      | .error e => complain p ("cannot touch " ++ quoteFile name ++ ": " ++ e.description); failed := true
    return (if failed then 1 else 0)

def mkdirProgram : Program := fun _ p => do
  let spec : OptSpec := {
    shorts := [('p', .none), ('m', .required), ('v', .none)]
    longs := [⟨"parents", .none, "p"⟩, ⟨"mode", .required, "m"⟩, ⟨"verbose", .none, "v"⟩] }
  match ← mkdirManual.options p spec p.args with
  | .error e => usageError p e
  | .ok parsed =>
    if parsed.operands.isEmpty then return ← usageError p "missing operand"
    let mut failed := false
    for name in parsed.operands do
      let t ← Sys.tree
      let result := if parsed.has "p" then t.makeDirAll p.here ((pathParts name).length + 1) name
        else t.makeDir p.here name
      match result with
      | .ok t' =>
        Sys.setTree t'
        if parsed.has "v" then emitText p (p.name ++ ": created directory " ++ quoteFile name ++ "\n")
      | .error e => complain p ("cannot create directory " ++ localeQuote name ++ ": " ++ e.description); failed := true
    return (if failed then 1 else 0)

def rmdirProgram : Program := fun _ p => do
  match ← rmdirManual.options p { shorts := [('p', .none)] } p.args with
  | .error e => usageError p e
  | .ok parsed =>
    if parsed.operands.isEmpty then return ← usageError p "missing operand"
    let mut failed := false
    for name in parsed.operands do
      let t ← Sys.tree
      match t.lookup p.here name with
      | .error e => complain p ("failed to remove " ++ quoteFile name ++ ": " ++ e.description); failed := true
      | .ok (place, .dir) =>
        if !(t.children place).isEmpty then
          complain p ("failed to remove " ++ quoteFile name ++ ": Directory not empty"); failed := true
        else Sys.setTree (t.erase place)
      | .ok _ => complain p ("failed to remove " ++ quoteFile name ++ ": Not a directory"); failed := true
    return (if failed then 1 else 0)

def rmProgram : Program := fun _ p => do
  let spec : OptSpec := {
    shorts := [('f', .none), ('r', .none), ('R', .none), ('d', .none), ('i', .none), ('v', .none)]
    longs := [⟨"force", .none, "f"⟩, ⟨"recursive", .none, "r"⟩, ⟨"dir", .none, "d"⟩, ⟨"verbose", .none, "v"⟩] }
  match ← rmManual.options p spec p.args with
  | .error e => usageError p e
  | .ok parsed =>
    let force := parsed.has "f"
    let recursive := parsed.has "r" || parsed.has "R"
    if parsed.operands.isEmpty && !force then return ← usageError p "missing operand"
    let mut failed := false
    for name in parsed.operands do
      let last := fileName name
      if last == "." || last == ".." then
        complain p ("refusing to remove '.' or '..' directory: skipping " ++ quoteFile name)
        failed := true
        continue
      let t ← Sys.tree
      let located := do
        let place ← t.walk (if isAbsolute name then [] else p.here) (pathParts name).dropLast
        pure (place ++ [last])
      match located with
      | .error e =>
        if !(force && e == .noEntry) then
          complain p ("cannot remove " ++ quoteFile name ++ ": " ++ e.description); failed := true
      | .ok place =>
        match t.get? place with
        | none =>
          if !force then complain p ("cannot remove " ++ quoteFile name ++ ": No such file or directory"); failed := true
        | some .dir =>
          if recursive then Sys.setTree (t.eraseBelow place)
          else if parsed.has "d" && (t.children place).isEmpty then Sys.setTree (t.erase place)
          else if parsed.has "d" then
            complain p ("cannot remove " ++ quoteFile name ++ ": Directory not empty"); failed := true
          else complain p ("cannot remove " ++ quoteFile name ++ ": Is a directory"); failed := true
        | some _ => Sys.setTree (t.erase place)
    return (if failed then 1 else 0)

def destinationName (intoDir : Bool) (source target : String) : String :=
  if intoDir then joinPath target (fileName source) else target

def isWithin (outer inner : Place) : Bool :=
  outer.isPrefixOf inner

/-- Checks the operands of `cp` and `mv`: at least a source and a target, and a directory
target when there are several sources. Gives the sources, the target, and whether the
sources go into the target, or the message that refuses them (with whether it is a misuse). -/
def copyOperands (t : FileTree) (p : Proc) (ops : List String) :
    Except (String × Bool) (List String × String × Bool) :=
  match ops with
  | [] => .error ("missing file operand", true)
  | [one] => .error ("missing destination file operand after " ++ quoteFile one, true)
  | _ =>
    let target := ops.getLastD ""
    let sources := ops.dropLast
    match t.lookup p.here target with
    | .ok (_, .dir) => .ok (sources, target, true)
    | .ok _ =>
      if sources.length > 1 then .error ("target " ++ quoteFile target ++ " is not a directory", false)
      else .ok (sources, target, false)
    | .error .noEntry =>
      if sources.length > 1 then .error ("target " ++ quoteFile target ++ " is not a directory", false)
      else .ok (sources, target, false)
    | .error e =>
      if sources.length > 1 then .error ("target " ++ quoteFile target ++ ": " ++ e.description, false)
      else .ok (sources, target, false)

def copyTree (t : FileTree) (source dest : Place) : FileTree :=
  let sub := (t.subtree source).filter fun (q, _) => !q.isEmpty
  let t := if (t.get? dest).isNone then t.set dest .dir else t
  sub.foldl (fun t (q, n) =>
    match n, t.get? (dest ++ q) with
    | .dir, some .dir => t
    | _, _ => t.set (dest ++ q) n) t

def cpProgram : Program := fun _ p => do
  let spec : OptSpec := {
    shorts := [('r', .none), ('R', .none), ('f', .none), ('p', .none), ('a', .none), ('v', .none),
      ('n', .none), ('i', .none), ('u', .none), ('l', .none), ('s', .none), ('L', .none),
      ('P', .none), ('H', .none), ('d', .none), ('x', .none), ('T', .none), ('t', .required)]
    longs := [⟨"recursive", .none, "r"⟩, ⟨"force", .none, "f"⟩, ⟨"archive", .none, "a"⟩,
      ⟨"verbose", .none, "v"⟩, ⟨"no-clobber", .none, "n"⟩, ⟨"interactive", .none, "i"⟩,
      ⟨"preserve", .optional, "preserve"⟩, ⟨"no-target-directory", .none, "T"⟩,
      ⟨"target-directory", .required, "t"⟩, ⟨"update", .optional, "u"⟩,
      ⟨"dereference", .none, "L"⟩, ⟨"no-dereference", .none, "P"⟩] }
  match ← cpManual.options p spec p.args with
  | .error e => usageError p e
  | .ok parsed =>
    let t ← Sys.tree
    let ops := match parsed.last? "t" with
      | some dir => parsed.operands ++ [dir]
      | none => parsed.operands
    match copyOperands t p ops with
    | .error (e, true) => usageError p e
    | .error (e, false) => complain p e; return 1
    | .ok (sources, target, intoDir) =>
    let recursive := parsed.has "r" || parsed.has "R" || parsed.has "a"
    let mut failed := false
    for source in sources do
      let t ← Sys.tree
      let destName := destinationName intoDir source target
      match t.lookup p.here source with
      | .error e => complain p ("cannot stat " ++ quoteFile source ++ ": " ++ e.description); failed := true
      | .ok (from_, node) =>
        let destNode := (t.lookup p.here destName).toOption
        match node with
        | .dir =>
          if !recursive then
            complain p ("-r not specified; omitting directory " ++ quoteFile source); failed := true
          else
            match t.locate p.here destName with
            | .error e =>
              complain p ("cannot create directory " ++ quoteFile destName ++ ": " ++ e.description); failed := true
            | .ok dest =>
              match destNode with
              | some (_, n) =>
                if !(n matches .dir) then
                  complain p ("cannot overwrite non-directory " ++ quoteFile destName ++ " with directory " ++
                    quoteFile source); failed := true
                else if isWithin from_ dest then
                  complain p ("cannot copy a directory, " ++ quoteFile source ++ ", into itself, " ++
                    quoteFile destName); failed := true
                else Sys.setTree (copyTree t from_ dest)
              | none =>
                if isWithin from_ dest then
                  complain p ("cannot copy a directory, " ++ quoteFile source ++ ", into itself, " ++
                    quoteFile destName); failed := true
                else if !t.isDir dest.dropLast then
                  complain p ("cannot create directory " ++ quoteFile destName ++ ": No such file or directory")
                  failed := true
                else Sys.setTree (copyTree t from_ dest)
        | _ =>
          match destNode with
          | some (dest, n) =>
            if dest == from_ then
              complain p (quoteFile source ++ " and " ++ quoteFile destName ++ " are the same file"); failed := true
            else if n matches .dir then
              complain p ("cannot overwrite directory " ++ quoteFile destName ++ " with non-directory"); failed := true
            else
              match node with
              | .file data exe => Sys.setTree (t.set dest (.file data exe))
              | other => Sys.setTree (t.set dest other)
          | none =>
            match t.locate p.here destName with
            | .error e =>
              complain p ("cannot create regular file " ++ quoteFile destName ++ ": " ++ e.description); failed := true
            | .ok dest =>
              if !t.isDir dest.dropLast then
                complain p ("cannot create regular file " ++ quoteFile destName ++ ": No such file or directory")
                failed := true
              else Sys.setTree (t.set dest node)
    return (if failed then 1 else 0)

def mvProgram : Program := fun _ p => do
  let spec : OptSpec := {
    shorts := [('f', .none), ('i', .none), ('n', .none), ('v', .none), ('u', .none), ('b', .none),
      ('T', .none), ('t', .required)]
    longs := [⟨"force", .none, "f"⟩, ⟨"interactive", .none, "i"⟩, ⟨"no-clobber", .none, "n"⟩,
      ⟨"verbose", .none, "v"⟩, ⟨"update", .none, "u"⟩, ⟨"no-target-directory", .none, "T"⟩,
      ⟨"target-directory", .required, "t"⟩] }
  match ← mvManual.options p spec p.args with
  | .error e => usageError p e
  | .ok parsed =>
    let t ← Sys.tree
    let ops := match parsed.last? "t" with
      | some dir => parsed.operands ++ [dir]
      | none => parsed.operands
    match copyOperands t p ops with
    | .error (e, true) => usageError p e
    | .error (e, false) => complain p e; return 1
    | .ok (sources, target, intoDir) =>
    let mut failed := false
    for source in sources do
      let t ← Sys.tree
      let destName := destinationName intoDir source target
      let last := fileName source
      let located := do
        let place ← t.walk (if isAbsolute source then [] else p.here) (pathParts source).dropLast
        if last == "." || last == ".." || last.isEmpty then t.locate p.here source else pure (place ++ [last])
      match located, located.bind fun place => (t.get? place).elim (.error .noEntry) .ok with
      | .error e, _ | _, .error e =>
        complain p ("cannot stat " ++ quoteFile source ++ ": " ++ e.description); failed := true
      | .ok from_, .ok node =>
        match t.locate p.here destName with
        | .error e =>
          complain p ("cannot move " ++ quoteFile source ++ " to " ++ quoteFile destName ++ ": " ++ e.description)
          failed := true
        | .ok dest =>
          let isDirNode := node matches .dir
          if dest == from_ then
            complain p (quoteFile source ++ " and " ++ quoteFile destName ++ " are the same file"); failed := true
          else if isDirNode && isWithin from_ dest then
            complain p ("cannot move " ++ quoteFile source ++ " to a subdirectory of itself, " ++
              quoteFile destName); failed := true
          else
            match t.get? dest with
            | some existing =>
              let destIsDir := existing matches .dir
              if isDirNode && !destIsDir then
                complain p ("cannot overwrite non-directory " ++ quoteFile destName ++ " with directory " ++
                  quoteFile source); failed := true
              else if !isDirNode && destIsDir then
                complain p ("cannot overwrite directory " ++ quoteFile destName ++ " with non-directory")
                failed := true
              else if destIsDir && !(t.children dest).isEmpty then
                complain p ("cannot move " ++ quoteFile source ++ " to " ++ quoteFile destName ++
                  ": Directory not empty"); failed := true
              else
                let sub := t.subtree from_
                Sys.setTree (((t.eraseBelow dest).eraseBelow from_).graft dest sub)
            | none =>
              if !t.isDir dest.dropLast then
                complain p ("cannot move " ++ quoteFile source ++ " to " ++ quoteFile destName ++
                  ": No such file or directory"); failed := true
              else
                let sub := t.subtree from_
                Sys.setTree ((t.eraseBelow from_).graft dest sub)
    return (if failed then 1 else 0)

def isVisibleName (name : String) : Bool :=
  !name.startsWith "."

def entrySize : Node → Nat
  | .file data _ => data.size
  | .dir => 4096
  | _ => 0

def nameExtension (name : String) : String :=
  match (name.splitOn ".") with
  | [_] => ""
  | parts => parts.getLastD ""

/-- How `ls` orders entries. -/
inductive ListOrder where
  | name
  | size
  | time
  | extension
  | version
  | none
  deriving DecidableEq, BEq

def orderEntries (order : ListOrder) (reverse : Bool) (xs : List (String × Node)) : List (String × Node) :=
  let byName := fun (a b : String × Node) => compareBytes a.1.toUTF8.toList b.1.toUTF8.toList != .gt
  let sorted := match order with
    | .none => xs
    | .name | .time => xs.mergeSort byName
    | .size => xs.mergeSort fun a b =>
        entrySize a.2 > entrySize b.2 || (entrySize a.2 == entrySize b.2 && byName a b)
    | .extension => xs.mergeSort fun a b =>
        match compareBytes (nameExtension a.1).toUTF8.toList (nameExtension b.1).toUTF8.toList with
        | .lt => true
        | .gt => false
        | .eq => byName a b
    | .version => xs.mergeSort fun a b =>
        match compareVersion a.1.toUTF8.toList b.1.toUTF8.toList with
        | .lt => true
        | .gt => false
        | .eq => byName a b
  if reverse && order != .none then sorted.reverse else sorted

def recursiveListings (t : FileTree) (entries : Place → List (String × Node))
    (orderFn : List (String × Node) → List (String × Node)) :
    Nat → String → Place → List (String × List (String × Node))
  | 0, _, _ => []
  | fuel + 1, name, place =>
    let kids := orderFn (entries place)
    let subdirs := kids.filter fun (n, node) => (node matches .dir) && n != "." && n != ".."
    (name, kids) :: subdirs.flatMap fun (n, _) =>
      recursiveListings t entries orderFn fuel (joinPath name n) (place ++ [n])

def lsProgram : Program := fun _ p => do
  let spec : OptSpec := {
    shorts := [('a', .none), ('A', .none), ('1', .none), ('d', .none), ('r', .none), ('F', .none),
      ('p', .none), ('R', .none), ('l', .none), ('S', .none), ('t', .none), ('U', .none),
      ('X', .none), ('v', .none), ('f', .none), ('C', .none), ('x', .none), ('N', .none)]
    longs := [⟨"all", .none, "a"⟩, ⟨"almost-all", .none, "A"⟩, ⟨"directory", .none, "d"⟩,
      ⟨"reverse", .none, "r"⟩, ⟨"classify", .optional, "F"⟩, ⟨"recursive", .none, "R"⟩,
      ⟨"file-type", .none, "file-type"⟩, ⟨"literal", .none, "N"⟩, ⟨"sort", .required, "sort"⟩] }
  match ← lsManual.options p spec p.args with
  | .error e => usageError p e 2
  | .ok parsed =>
    let t ← Sys.tree
    let sortWord : Except String (Option ListOrder) := match parsed.last? "sort" with
      | some w => (argMatch "--sort" w [("none", ListOrder.none), ("time", .time), ("size", .size),
            ("extension", .extension), ("version", .version)]).map some
      | none => .ok none
    match sortWord with
    | .error e => usageError p e 2
    | .ok sortWord =>
    let order := parsed.opts.foldl (fun o (k, _) =>
      match k with
      | "S" => .size
      | "t" => .time
      | "U" | "f" => .none
      | "X" => .extension
      | "v" => .version
      | "sort" => sortWord.getD o
      | _ => o) ListOrder.name
    let all := parsed.has "a" || parsed.has "f"
    let almost := parsed.has "A"
    let orderFn := orderEntries order (parsed.has "r")
    let classify := parsed.has "F"
    let mark := fun (n : Node) =>
      match n with
      | .dir => if classify || parsed.has "p" || parsed.has "file-type" then "/" else ""
      | .file _ true => if classify then "*" else ""
      | .program _ => if classify then "*" else ""
      | .link _ => if classify || parsed.has "file-type" then "@" else ""
      | _ => ""
    let entries := fun (place : Place) =>
      let kids := t.children place
      if all then (".", Node.dir) :: ("..", Node.dir) :: kids
      else if almost then kids else kids.filter (isVisibleName ·.1)
    let ops := if parsed.operands.isEmpty then ["."] else parsed.operands
    let mut failed := false
    let mut files : List (String × Node) := []
    let mut dirs : List (String × Node × Place) := []
    for name in ops do
      match t.lookup p.here name with
      | .error e =>
        complain p ("cannot access " ++ quoteFile name ++ ": " ++ e.description); failed := true
      | .ok (place, .dir) =>
        if parsed.has "d" then files := files ++ [(name, .dir)] else dirs := dirs ++ [(name, .dir, place)]
      | .ok (_, node) => files := files ++ [(name, node)]
    let render := fun (xs : List (String × Node)) => String.join (xs.map fun (n, node) => n ++ mark node ++ "\n")
    let mut out := render (orderFn files)
    let dirOrder := orderFn (dirs.map fun (n, node, _) => (n, node))
    let headers := ops.length > 1 || parsed.has "R"
    let mut firstGroup := files.isEmpty
    for (name, _) in dirOrder do
      match dirs.find? (·.1 == name) with
      | none => pure ()
      | some (_, _, place) =>
        let listings := if parsed.has "R" then recursiveListings t entries orderFn 64 name place
          else [(name, orderFn (entries place))]
        for (shownName, kids) in listings do
          if !firstGroup then out := out ++ "\n"
          firstGroup := false
          if headers then out := out ++ shownName ++ ":\n"
          out := out ++ render kids
    emitText p out
    return (if failed then 2 else 0)

end Pipework.Tools
