import Pipework.Proofs.Shell.Grammar
import Pipework.Tcl.Exec

/-! How the words of an `exec` line become commands. -/

namespace Pipework.Tcl

open Pipework.Shell

/-- How the words of an `exec` line are taken: an argument, a pipe (`|&` when `merged`), the
word `2>@1`, or a redirection word with the row of the table it starts with, the target it names
and whether that target is the word after it. -/
inductive ExecPiece where
  | argument (word : String)
  | pipe (merged : Bool)
  | mergeErrors
  | redirect (pfx : String) (op : RedirectOp) (fd : Option Nat) (target : String) (detached : Bool)
  deriving Repr, DecidableEq

namespace ExecPiece

/-- The first word of a piece. -/
def lead : ExecPiece → String
  | .argument w => w
  | .pipe merged => if merged then "|&" else "|"
  | .mergeErrors => "2>@1"
  | .redirect pfx _ _ target detached => if detached then pfx else pfx ++ target

/-- The words a piece takes: its first word, then the target of a redirection word that is a
prefix alone. -/
def words : ExecPiece → List String
  | .redirect pfx _ _ target true => [pfx, target]
  | piece => [piece.lead]

/-- The arguments a piece gives its command. -/
def args : ExecPiece → List String
  | .argument w => [w]
  | _ => []

/-- The redirections a piece gives its command. -/
def redirects : ExecPiece → List Redirect
  | .mergeErrors => [errorsToOutput]
  | .redirect _ op fd target _ => [⟨op, fd, target⟩]
  | _ => []

def isPipe : ExecPiece → Bool
  | .pipe _ => true
  | _ => false

/-- A piece is what its words are. An argument is no pipe, no `&`, no `2>@1`, and starts with no
prefix of the table; a redirection word is not `2>@1`, takes the first row of the table whose
prefix it starts with, and names a target after the prefix unless it is the prefix alone. -/
def Classified : ExecPiece → Prop
  | .argument w => w ≠ "|" ∧ w ≠ "|&" ∧ w ≠ "&" ∧ w ≠ "2>@1" ∧
      ∀ entry ∈ execRedirects, w.startsWith entry.1 = false
  | .pipe _ | .mergeErrors => True
  | .redirect pfx op fd target detached =>
    let word := if detached then pfx else pfx ++ target
    word ≠ "2>@1" ∧ execRedirects.find? (fun entry => word.startsWith entry.1) = some (pfx, op, fd) ∧
      (detached = false → target ≠ "")

/-- The pieces of each command of a pipeline, with whether the pipe after it is `|&`: the pipes
cut the pieces, and the last command has no pipe after it. -/
def stages : List ExecPiece → List (List ExecPiece × Bool)
  | [] => [([], false)]
  | .pipe merged :: rest => ([], merged) :: stages rest
  | piece :: rest =>
    match stages rest with
    | (own, merged) :: later => (piece :: own, merged) :: later
    | [] => []

/-- The command of a stage: the arguments and redirections of its pieces in order, then `2>&1`
when the pipe after it is `|&`. -/
def stageCommand (stage : List ExecPiece × Bool) : SimpleCommand :=
  ⟨stage.1.flatMap args, stage.1.flatMap redirects ++ if stage.2 then [errorsToOutput] else []⟩

/-! ### Stages -/

theorem stages_ne_nil (pieces : List ExecPiece) : stages pieces ≠ [] := by
  induction pieces with
  | nil => simp [stages]
  | cons piece rest ih =>
    obtain ⟨stage, later, split⟩ := List.exists_cons_of_ne_nil ih
    rcases piece with _ | _ | _ | _ <;> simp [stages, split]

theorem stages_cons {piece : ExecPiece} (notPipe : piece.isPipe = false) {rest : List ExecPiece}
    {own : List ExecPiece} {merged : Bool} {later : List (List ExecPiece × Bool)}
    (split : stages rest = (own, merged) :: later) :
    stages (piece :: rest) = (piece :: own, merged) :: later := by
  rcases piece with _ | _ | _ | _ <;> simp_all [stages, isPipe]

theorem stages_cons_cases (piece : ExecPiece) (rest : List ExecPiece) :
    (∃ merged, piece = .pipe merged ∧ stages (piece :: rest) = ([], merged) :: stages rest) ∨
      piece.isPipe = false ∧ ∃ own merged later, stages rest = (own, merged) :: later ∧
        stages (piece :: rest) = (piece :: own, merged) :: later := by
  cases pipe : piece.isPipe with
  | true =>
    obtain ⟨merged, rfl⟩ : ∃ merged, piece = .pipe merged := by
      cases piece <;> simp_all [isPipe]
    exact .inl ⟨merged, rfl, rfl⟩
  | false =>
    obtain ⟨⟨own, merged⟩, later, split⟩ := List.exists_cons_of_ne_nil (stages_ne_nil rest)
    exact .inr ⟨rfl, own, merged, later, split, stages_cons pipe split⟩

theorem length_stages (pieces : List ExecPiece) :
    (stages pieces).length = pieces.countP isPipe + 1 := by
  induction pieces with
  | nil => rfl
  | cons piece rest ih =>
    rcases stages_cons_cases piece rest with ⟨merged, rfl, piped⟩ | ⟨notPipe, own, merged, later, split, joined⟩
    · rw [piped, List.countP_cons]
      simp [ih, isPipe]
    · rw [split] at ih
      rw [joined, List.countP_cons, notPipe]
      simpa using ih

theorem flatMap_args_stages (pieces : List ExecPiece) :
    ((stages pieces).map stageCommand).flatMap SimpleCommand.args = pieces.flatMap args := by
  induction pieces with
  | nil => rfl
  | cons piece rest ih =>
    rcases stages_cons_cases piece rest with ⟨merged, rfl, piped⟩ | ⟨-, own, merged, later, split, joined⟩
    · simpa [piped, stageCommand, args] using ih
    · rw [split] at ih
      simpa [joined, stageCommand] using ih

/-! ### Classified pieces -/

theorem eq_append_of_startsWith {w pfx : String} (starts : w.startsWith pfx = true) :
    w = pfx ++ String.ofList (w.toList.drop pfx.length) := by
  rw [String.startsWith_string_iff, List.prefix_iff_eq_take] at starts
  apply String.ext
  have spelled := List.take_append_drop pfx.toList.length w.toList
  rw [← starts, String.length_toList] at spelled
  simpa using spelled.symm

theorem startsWith_of_find {w pfx : String} {op : RedirectOp} {fd : Option Nat}
    (found : execRedirects.find? (fun entry => w.startsWith entry.1) = some (pfx, op, fd)) :
    w.startsWith pfx = true ∧ (pfx, op, fd) ∈ execRedirects :=
  ⟨by simpa using List.find?_some found, List.mem_of_find?_eq_some found⟩

theorem roleOf_argument {w : String} (role : roleOf w = .argument) :
    ∀ entry ∈ execRedirects, w.startsWith entry.1 = false := by
  unfold roleOf at role
  split at role
  · cases role
  · dsimp only at role
    split at role
    · next none_found => simpa using List.find?_eq_none.mp none_found
    · split at role <;> cases role

theorem roleOf_attached {w target : String} {op : RedirectOp} {fd : Option Nat}
    (role : roleOf w = .attached op fd target) :
    ∃ pfx, execRedirects.find? (fun entry => w.startsWith entry.1) = some (pfx, op, fd) ∧
      w = pfx ++ target ∧ target ≠ "" := by
  unfold roleOf at role
  split at role
  · cases role
  · dsimp only at role
    split at role
    · cases role
    · next pfx op' fd' found =>
      split at role
      · cases role
      · next rest =>
        simp only [WordRole.attached.injEq] at role
        obtain ⟨rfl, rfl, rfl⟩ := role
        refine ⟨pfx, found, eq_append_of_startsWith (startsWith_of_find found).1, ?_⟩
        simpa using rest

theorem roleOf_detached {w pfx : String} {op : RedirectOp} {fd : Option Nat}
    (role : roleOf w = .detached op fd pfx) :
    execRedirects.find? (fun entry => w.startsWith entry.1) = some (pfx, op, fd) ∧ w = pfx := by
  unfold roleOf at role
  split at role
  · cases role
  · dsimp only at role
    split at role
    · cases role
    · next pfx' op' fd' found =>
      split at role
      · next rest =>
        simp only [WordRole.detached.injEq] at role
        obtain ⟨rfl, rfl, rfl⟩ := role
        refine ⟨found, ?_⟩
        have spelled := eq_append_of_startsWith (startsWith_of_find found).1
        rw [String.isEmpty_iff.mp rest, String.append_empty] at spelled
        exact spelled
      · cases role

/-- The piece that words start with, as `Classified` reads it, and the words after it. -/
def readPiece : List String → Option (ExecPiece × List String)
  | [] => none
  | w :: ws =>
    if w = "|" then some (.pipe false, ws)
    else if w = "|&" then some (.pipe true, ws)
    else if w = "2>@1" then some (.mergeErrors, ws)
    else
      match execRedirects.find? (fun entry => w.startsWith entry.1) with
      | none => if w = "&" then none else some (.argument w, ws)
      | some (pfx, op, fd) =>
        if w = pfx then
          match ws with
          | target :: rest => some (.redirect pfx op fd target true, rest)
          | [] => none
        else some (.redirect pfx op fd (String.ofList (w.toList.drop pfx.length)) false, ws)

theorem drop_prefix {pfx target : String} :
    String.ofList ((pfx.toList ++ target.toList).drop pfx.length) = target := by
  rw [← String.length_toList, List.drop_left, String.ofList_toList]

theorem Classified.readPiece_words {x : ExecPiece} (classified : x.Classified) (rest : List String) :
    readPiece (x.words ++ rest) = some (x, rest) := by
  -- a redirection word is no pipe word: pipe words start with no prefix of the table
  have notPipe : ∀ {w : String} {row : String × RedirectOp × Option Nat},
      execRedirects.find? (fun entry => w.startsWith entry.1) = some row → w ≠ "|" ∧ w ≠ "|&" := by
    rintro w row found
    refine ⟨?_, ?_⟩ <;> rintro rfl
    · simp [execRedirects] at found
    · simp [execRedirects] at found
  rcases x with w | merged | _ | ⟨pfx, op, fd, target, _ | _⟩
  · obtain ⟨bar, barAmp, amp, merge, noRow⟩ := classified
    have none_found : execRedirects.find? (fun entry => w.startsWith entry.1) = none :=
      List.find?_eq_none.mpr fun entry member => by simp [noRow entry member]
    simp [readPiece, words, lead, bar, barAmp, amp, merge, none_found]
  · cases merged <;> simp [readPiece, words, lead]
  · simp [readPiece, words, lead]
  · obtain ⟨merge, found, named⟩ := classified
    simp only [Bool.false_eq_true, if_false] at merge found named
    have longer : pfx ++ target ≠ pfx := by
      intro same
      exact named trivial (by simpa using congrArg String.toList same)
    simp [readPiece, words, lead, (notPipe found).1, (notPipe found).2, merge, found, longer,
      drop_prefix]
  · obtain ⟨merge, found, -⟩ := classified
    simp only [if_true] at merge found
    simp [readPiece, words, (notPipe found).1, (notPipe found).2, merge, found]

theorem pieces_unique {pieces others : List ExecPiece}
    (same : pieces.flatMap words = others.flatMap words)
    (classified : ∀ piece ∈ pieces, piece.Classified)
    (classified' : ∀ piece ∈ others, piece.Classified) : pieces = others := by
  induction pieces generalizing others with
  | nil =>
    cases others with
    | nil => rfl
    | cons y others =>
      have read := (classified' y List.mem_cons_self).readPiece_words (others.flatMap words)
      simp only [List.flatMap_nil, List.flatMap_cons] at same
      rw [← same] at read
      cases read
  | cons x pieces ih =>
    cases others with
    | nil =>
      have read := (classified x List.mem_cons_self).readPiece_words (pieces.flatMap words)
      simp only [List.flatMap_nil, List.flatMap_cons] at same
      rw [same] at read
      cases read
    | cons y others =>
      simp only [List.flatMap_cons] at same
      have read := (classified x List.mem_cons_self).readPiece_words (pieces.flatMap words)
      rw [same, (classified' y List.mem_cons_self).readPiece_words] at read
      obtain ⟨rfl, rest⟩ := Prod.mk.inj (Option.some.inj read)
      rw [ih rest.symm (fun piece member => classified piece (List.mem_cons_of_mem _ member))
        (fun piece member => classified' piece (List.mem_cons_of_mem _ member))]

end ExecPiece

open ExecPiece

/-! ### What the builder reads -/

/-- A run of the builder from the finished commands `done` and the command under way `current`
over the words `ws` ended with `p`, read as pieces: `done` stays, `current` is finished with the
pieces of the first stage, and the later stages follow. -/
def BuiltFrom (done : List SimpleCommand) (current : SimpleCommand) (ws : List String)
    (p : Pipeline) : Prop :=
  ∃ pieces, ws = pieces.flatMap words ∧ (∀ piece ∈ pieces, piece.Classified) ∧
    ∃ own merged later, stages pieces = (own, merged) :: later ∧
      p.commands = done ++ ⟨current.args ++ own.flatMap args,
        current.redirects ++ own.flatMap redirects ++ if merged then [errorsToOutput] else []⟩ ::
          later.map stageCommand

section Builder

variable {done : List SimpleCommand} {current : SimpleCommand} {ws : List String} {p : Pipeline}

theorem BuiltFrom.nil : BuiltFrom done current [] ⟨done ++ [current], true, false⟩ :=
  ⟨[], rfl, by simp, [], false, [], rfl, by simp⟩

theorem BuiltFrom.pipe {w : String} (separator : w = "|" ∨ w = "|&")
    (rest : BuiltFrom (done ++ [⟨current.args,
      current.redirects ++ if w = "|&" then [errorsToOutput] else []⟩]) ⟨[], []⟩ ws p) :
    BuiltFrom done current (w :: ws) p := by
  obtain ⟨pieces, spelled, classified, own, merged, later, staged, commands⟩ := rest
  have piped : ∀ merged : Bool, w = (if merged then "|&" else "|") → (w = "|&" ↔ merged = true) →
      BuiltFrom done current (w :: ws) p := by
    intro pipeMerged word merges
    refine ⟨.pipe pipeMerged :: pieces, by simp [spelled, words, lead, word], ?_, [], pipeMerged,
      (own, merged) :: later, by simp [stages, staged], ?_⟩
    · intro piece member
      rcases List.mem_cons.mp member with rfl | later
      · trivial
      · exact classified piece later
    · simp [commands, stageCommand, merges]
  rcases separator with rfl | rfl
  · exact piped false rfl (by decide)
  · exact piped true rfl (by decide)

theorem BuiltFrom.cons (piece : ExecPiece) (notPipe : piece.isPipe = false)
    (classifiedPiece : piece.Classified)
    (rest : BuiltFrom done ⟨current.args ++ piece.args, current.redirects ++ piece.redirects⟩ ws p) :
    BuiltFrom done current (piece.words ++ ws) p := by
  obtain ⟨pieces, spelled, classified, own, merged, later, staged, commands⟩ := rest
  refine ⟨piece :: pieces, by simp [spelled], ?_, piece :: own, merged, later,
    stages_cons notPipe staged, by simp [commands]⟩
  intro other member
  rcases List.mem_cons.mp member with rfl | later
  · exact classifiedPiece
  · exact classified other later

end Builder

theorem buildFrom_builtFrom {done : List SimpleCommand} {current : SimpleCommand}
    {ws : List String} {p : Pipeline} (built : buildFrom done current ws = .ok p) :
    BuiltFrom done current ws p := by
  fun_induction buildFrom done current ws
  case case2 =>
    cases built
    exact .nil
  case case4 done current w rest separator _ finished ih =>
    have closed : finished =
        ⟨current.args, current.redirects ++ if w = "|&" then [errorsToOutput] else []⟩ := by
      simp only [finished, beq_iff_eq]
      split <;> simp
    exact BuiltFrom.pipe (by simpa using separator) (closed ▸ ih built)
  case case6 done current w rest _ _ merge ih =>
    obtain rfl : w = "2>@1" := by simpa using merge
    exact BuiltFrom.cons .mergeErrors rfl trivial
      (by simpa [args, redirects] using ih built)
  case case8 done current w rest separator amp merge role ih =>
    have classified : (ExecPiece.argument w).Classified := by
      simp only [Bool.or_eq_true, beq_iff_eq, not_or] at separator
      exact ⟨separator.1, separator.2, by simpa using amp, by simpa using merge, roleOf_argument role⟩
    exact BuiltFrom.cons (.argument w) rfl classified
      (by simpa [args, redirects] using ih built)
  case case9 done current w rest _ _ merge op fd target role ih =>
    obtain ⟨pfx, found, rfl, named⟩ := roleOf_attached role
    have classified : (ExecPiece.redirect pfx op fd target false).Classified :=
      ⟨by simpa using merge, found, fun _ => named⟩
    exact BuiltFrom.cons (.redirect pfx op fd target false) rfl classified
      (by simpa [args, redirects] using ih built)
  case case11 done current w _ _ merge op fd pfx role target rest ih =>
    obtain ⟨found, rfl⟩ := roleOf_detached role
    have classified : (ExecPiece.redirect w op fd target true).Classified :=
      ⟨by simpa using merge, found, nofun⟩
    exact BuiltFrom.cons (.redirect w op fd target true) rfl classified
      (by simpa [args, redirects] using ih built)
  -- the other words are refused
  case case1 | case3 | case5 | case7 | case10 => cases built

/-- Building a pipeline from `exec` words loses and repeats no word. The words are taken apart
into classified pieces, in one way only: arguments, pipes, `2>@1`, and redirection words with the
targets they name, the rest of the word or else the next word as it is. The commands are the
stages between the pipes, each with the arguments and redirections of its pieces in order and
`2>&1` after them when the pipe after it is `|&`. So the commands are one more than the pipes
that are no target, and their arguments are the argument words in order. -/
theorem exec_words_accounted (ws : List String) (p : Pipeline) (built : buildPipeline ws = .ok p) :
    ∃ pieces : List ExecPiece, ws = pieces.flatMap ExecPiece.words ∧
      (∀ piece ∈ pieces, piece.Classified) ∧
      (∀ others : List ExecPiece, ws = others.flatMap ExecPiece.words →
        (∀ piece ∈ others, piece.Classified) → others = pieces) ∧
      p.commands = (ExecPiece.stages pieces).map ExecPiece.stageCommand ∧
      p.commands.length = pieces.countP ExecPiece.isPipe + 1 ∧
      p.commands.flatMap SimpleCommand.args = pieces.flatMap ExecPiece.args := by
  obtain ⟨pieces, spelled, classified, own, merged, later, staged, commands⟩ :=
    buildFrom_builtFrom built
  have stageCommands : p.commands = (stages pieces).map stageCommand := by
    simp [commands, staged, stageCommand]
  refine ⟨pieces, spelled, classified, fun others spelled' classified' =>
    pieces_unique (spelled'.symm.trans spelled) classified' classified, stageCommands, ?_, ?_⟩
  · rw [stageCommands, List.length_map, length_stages]
  · rw [stageCommands, flatMap_args_stages]

/-- A bare `>` takes the pipe after it as its target, so the pipe cuts nothing; the `|&` after
`b` cuts the words and sends that command's errors down the pipe. -/
theorem exec_words_accounted_target_pipe :
    ∃ p, buildPipeline ["a", ">", "|", "b", "|&", "c", "2>out"] = .ok p ∧ p.commands.length = 2 ∧
      ∃ pieces : List ExecPiece,
        ["a", ">", "|", "b", "|&", "c", "2>out"] = pieces.flatMap ExecPiece.words ∧
        (∀ piece ∈ pieces, piece.Classified) ∧
        p.commands = (ExecPiece.stages pieces).map ExecPiece.stageCommand ∧
        p.commands.length = pieces.countP ExecPiece.isPipe + 1 := by
  have built : buildPipeline ["a", ">", "|", "b", "|&", "c", "2>out"] =
      .ok ⟨[⟨["a", "b"], [⟨.output, none, "|"⟩, errorsToOutput]⟩,
        ⟨["c"], [⟨.output, some 2, "out"⟩]⟩], true, false⟩ := by
    cbv
  obtain ⟨pieces, spelled, classified, -, commands, count, -⟩ :=
    exec_words_accounted _ _ built
  exact ⟨_, built, rfl, pieces, spelled, classified, commands, count⟩

end Pipework.Tcl
