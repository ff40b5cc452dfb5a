import Pipework.Proofs.Run.Recording
import Pipework.Proofs.Run.Sequencing

/-! A command tree run in process, pipeline by pipeline. -/

namespace Pipework.Run

open Pipework.Host Pipework.Shell

/-- How a command tree runs from a machine `w`: the pipelines that ran to the end, each with its
records, in the order they ran; the machine `w'` it leaves; and its status or the error that stopped
it. An empty pipeline gives no status; `&` is refused; an error on the left of an operator stops the
run, and otherwise the right side runs exactly when the operator allows it after the left side's
status. -/
inductive Runs (ctx : Context) : CommandTree → World → List (Pipeline × List Record) → World →
    Except ExecError (Option Int) → Prop
  | empty {p : Pipeline} {w : World} (noCommands : p.commands = []) :
      Runs ctx (.pipeline p) w [] w (.ok none)
  | finished {p : Pipeline} {w w' : World} {code : Int} {records : List Record}
      (someCommands : p.commands ≠ [])
      (ran : (runPipeline ctx p).run.run w = (.ok (.ok (code, records)), w')) :
      Runs ctx (.pipeline p) w [(p, records)] w' (.ok (some code))
  | failed {p : Pipeline} {w w' : World} {e : ExecError} (someCommands : p.commands ≠ [])
      (ran : (runPipeline ctx p).run.run w = (.ok (.error e), w')) :
      Runs ctx (.pipeline p) w [] w' (.error e)
  | background {left right : CommandTree} {w : World} :
      Runs ctx (.sequence left .background right) w [] w (.error (.unsupported "shell operator '&'"))
  | stopped {left right : CommandTree} {op : SeqOp} {w w' : World}
      {steps : List (Pipeline × List Record)} {e : ExecError} (notBackground : op ≠ .background)
      (leftRuns : Runs ctx left w steps w' (.error e)) :
      Runs ctx (.sequence left op right) w steps w' (.error e)
  | skipped {left right : CommandTree} {op : SeqOp} {w w' : World}
      {steps : List (Pipeline × List Record)} {status : Option Int} (notBackground : op ≠ .background)
      (leftRuns : Runs ctx left w steps w' (.ok status)) (skips : op.runsAfter status = false) :
      Runs ctx (.sequence left op right) w steps w' (.ok status)
  | continued {left right : CommandTree} {op : SeqOp} {w w₁ w' : World}
      {steps steps' : List (Pipeline × List Record)} {status : Option Int}
      {r : Except ExecError (Option Int)} (leftRuns : Runs ctx left w steps w₁ (.ok status))
      (runs : op.runsAfter status = true) (rightRuns : Runs ctx right w₁ steps' w' r) :
      Runs ctx (.sequence left op right) w (steps ++ steps') w' r

@[simp] theorem Sys.run_pure {α : Type} (a : α) (w : World) : (pure a : Sys α).run w = (.ok a, w) :=
  rfl

@[simp] theorem proceed_error (ctx : Context) (op : SeqOp) (right : CommandTree)
    (acc : Array Record) (e : ExecError) :
    proceed ctx op right (acc, .error e) = pure (acc, .error e) := rfl

@[simp] theorem proceed_ok (ctx : Context) (op : SeqOp) (right : CommandTree)
    (acc : Array Record) (status : Option Int) :
    proceed ctx op right (acc, .ok status) =
      if op.runsAfter status then runTree ctx right acc else pure (acc, .ok status) := rfl

/-- Every run of `runTree` that ends without a halt is a run of the tree as `Runs` says, and the
records it appends are those of the pipelines that ran to the end, in the order they ran. -/
theorem runTree_runs {ctx : Context} {t : CommandTree} {acc acc' : Array Record} {w w' : World}
    {r : Except ExecError (Option Int)} (ran : (runTree ctx t acc).run w = (.ok (acc', r), w')) :
    ∃ steps, Runs ctx t w steps w' r ∧ acc' = acc ++ (steps.flatMap Prod.snd).toArray := by
  induction t generalizing acc acc' w w' r with
  | pipeline p =>
    rw [runTree_pipeline_run] at ran
    split at ran
    · next empty =>
      cases ran
      exact ⟨[], .empty (List.isEmpty_iff.1 empty), by simp⟩
    · next nonempty =>
      have someCommands : p.commands ≠ [] := by simpa using nonempty
      rcases finished : (runPipeline ctx p).run.run w with ⟨res, w₁⟩
      rcases res with halt | e | ⟨code, records⟩ <;> rw [finished] at ran <;> cases ran
      · exact ⟨[], .failed someCommands finished, by simp⟩
      · exact ⟨[(p, records)], .finished someCommands finished, by simp⟩
  | sequence left op right ihl ihr =>
    by_cases background : op = .background
    · subst background
      simp only [runTree, Sys.run_pure] at ran
      cases ran
      exact ⟨[], .background, by simp⟩
    · rw [runTree_sequence ctx background, Sys.run_bind] at ran
      rcases leftRan : (runTree ctx left acc).run w with ⟨res, w₁⟩
      rcases res with halt | ⟨acc₁, r₁⟩ <;> rw [leftRan] at ran
      · cases ran
      obtain ⟨steps, leftRuns, rfl⟩ := ihl leftRan
      -- the left side either stopped the run or left a status for the operator to judge
      rcases r₁ with e | status
      · simp only [proceed_error, Sys.run_pure] at ran
        cases ran
        exact ⟨steps, .stopped background leftRuns, rfl⟩
      · simp only [proceed_ok] at ran
        by_cases runs : op.runsAfter status = true
        · rw [if_pos runs] at ran
          obtain ⟨steps', rightRuns, rfl⟩ := ihr ran
          exact ⟨steps ++ steps', .continued leftRuns runs rightRuns, by simp⟩
        · rw [if_neg runs, Sys.run_pure] at ran
          cases ran
          exact ⟨steps, .skipped background leftRuns (by simpa using runs), rfl⟩

theorem Runs.runTree_run {ctx : Context} {t : CommandTree} {w w' : World}
    {steps : List (Pipeline × List Record)} {r : Except ExecError (Option Int)}
    (runs : Runs ctx t w steps w' r) (acc : Array Record) :
    (runTree ctx t acc).run w = (.ok (acc ++ (steps.flatMap Prod.snd).toArray, r), w') := by
  induction runs generalizing acc with
  | empty noCommands => simp [runTree_pipeline_run, noCommands]
  | finished someCommands ran => simp [runTree_pipeline_run, someCommands, ran]
  | failed someCommands ran => simp [runTree_pipeline_run, someCommands, ran]
  | background => simp [runTree]
  | stopped notBackground _ ih =>
    rw [runTree_sequence ctx notBackground, Sys.run_bind, ih]
    simp
  | skipped notBackground _ skips ih =>
    rw [runTree_sequence ctx notBackground, Sys.run_bind, ih]
    simp [skips]
  | @continued left right op w w₁ w' steps steps' status r _ runs _ ihl ihr =>
    have notBackground : op ≠ .background := by
      rintro rfl
      simp [SeqOp.runsAfter] at runs
    rw [runTree_sequence ctx notBackground, Sys.run_bind, ihl]
    simp [runs, ihr]

/-- `runTree` computes exactly the runs of `Runs`: a run that ends without a halt appends the
records of the pipelines that ran to the end, in the order they ran. -/
theorem runTree_run_iff_runs {ctx : Context} {t : CommandTree} {acc acc' : Array Record}
    {w w' : World} {r : Except ExecError (Option Int)} :
    (runTree ctx t acc).run w = (.ok (acc', r), w') ↔
      ∃ steps, Runs ctx t w steps w' r ∧ acc' = acc ++ (steps.flatMap Prod.snd).toArray := by
  constructor
  · exact runTree_runs
  · rintro ⟨steps, runs, rfl⟩
    exact runs.runTree_run acc

theorem Runs.commands {ctx : Context} {t : CommandTree} {w w' : World}
    {steps : List (Pipeline × List Record)} {r : Except ExecError (Option Int)}
    (runs : Runs ctx t w steps w' r) : ∀ step ∈ steps, step.2.map Record.command = step.1.commands := by
  induction runs with
  | empty | failed | background => simp
  | finished someCommands ran =>
    intro step mem
    rw [List.mem_singleton.1 mem]
    exact (runPipeline_recorded (by simpa using someCommands) (by rw [ran])).commands_eq
  | stopped _ _ ih => exact ih
  | skipped _ _ _ ih => exact ih
  | continued _ _ _ ihl ihr =>
    intro step mem
    rcases List.mem_append.1 mem with early | late
    · exact ihl step early
    · exact ihr step late

theorem commandNotFound_errors (c : SimpleCommand) :
    "'" ++ c.program ++ "': command not found\n" = (ExecError.commandNotFound c).message ++ "\n" := by
  -- the message is unfolded by hand: its equations are costly to build
  show _ = "'" ++ c.program ++ "': command not found" ++ "\n"
  simp only [String.append_assoc, String.reduceAppend]

/-- An in-process run that ends with a result reports the transcript of the records of the
pipelines that ran to the end, in the order they ran, one record per command of each, numbered
from zero, with no errors beside it and the tree's status as its code (zero when there is none).
A program that cannot be found stops the run after the pipelines before it: its pipeline records
nothing, one record follows, carrying the command, no output, the error's message on a line and
code 255, and the run ends with code 255. Every other error is passed on as it is. -/
theorem in_process_transcript (ctx : Context) (tree : CommandTree) {w w' : World}
    {result : Except ExecError ScriptOutcome}
    (ran : (runInProcess ctx tree).run.run w = (.ok result, w')) :
    ∃ steps r, Runs ctx tree w steps w' r ∧
      (∀ step ∈ steps, step.2.map Record.command = step.1.commands) ∧
      result = match r with
        | .ok status => .ok (.completed (transcript (steps.flatMap Prod.snd)) "" (status.getD 0))
        | .error (.commandNotFound c) =>
          .ok (.completed (transcript (steps.flatMap Prod.snd ++
            [{ command := c, output := .empty, code := 255,
               errors := ((ExecError.commandNotFound c).message ++ "\n").toUTF8 }])) "" 255)
        | .error e => .error e := by
  unfold runInProcess at ran
  rw [Engine.run_bind, Engine.run_lift] at ran
  rcases treeRan : (runTree ctx tree #[]).run w with ⟨res, w₁⟩
  rcases res with halt | ⟨records, r⟩ <;> rw [treeRan] at ran
  · cases ran
  dsimp only at ran
  obtain ⟨steps, runs, rfl⟩ := runTree_runs treeRan
  -- the tree ends with a status, a missing program, or another error that is passed on
  rcases r with e | status
  · cases e with
    | commandNotFound c =>
      dsimp only at ran
      obtain ⟨reported, rfl⟩ := Prod.mk.inj ran
      refine ⟨steps, _, runs, runs.commands, ?_⟩
      rw [← Except.ok.inj reported, commandNotFound_errors]
      simp
    | _ =>
      dsimp only at ran
      rw [Engine.run_throw] at ran
      obtain ⟨reported, rfl⟩ := Prod.mk.inj ran
      exact ⟨steps, _, runs, runs.commands, (Except.ok.inj reported).symm⟩
  · dsimp only at ran
    obtain ⟨reported, rfl⟩ := Prod.mk.inj ran
    refine ⟨steps, _, runs, runs.commands, ?_⟩
    rw [← Except.ok.inj reported]
    simp

/-- `t || f ; nope ; t`, where `t` succeeds and `nope` is missing: `t` runs and `f` is skipped,
`nope` ends the run with a record of its own and code 255, and the last `t` never runs. -/
theorem in_process_transcript_missing_program :
    (runInProcess ⟨"/", [("PATH", "/")], {}⟩
        (.sequence (.sequence (.sequence (.pipeline ⟨[⟨["t"], []⟩], false, false⟩) .or
          (.pipeline ⟨[⟨["f"], []⟩], false, false⟩)) .semi
          (.pipeline ⟨[⟨["nope"], []⟩], false, false⟩)) .semi
          (.pipeline ⟨[⟨["t"], []⟩], false, false⟩))).run.run
        { tree := { entries := [(["t"], .program "true"), (["f"], .program "false")] } } =
      (.ok (.ok (.completed (transcript [⟨⟨["t"], []⟩, .empty, .empty, 0⟩,
          ⟨⟨["nope"], []⟩, .empty, ((ExecError.commandNotFound ⟨["nope"], []⟩).message ++ "\n").toUTF8,
            255⟩]) "" 255)),
        ((runTree ⟨"/", [("PATH", "/")], {}⟩
          (.sequence (.sequence (.sequence (.pipeline ⟨[⟨["t"], []⟩], false, false⟩) .or
            (.pipeline ⟨[⟨["f"], []⟩], false, false⟩)) .semi
            (.pipeline ⟨[⟨["nope"], []⟩], false, false⟩)) .semi
            (.pipeline ⟨[⟨["t"], []⟩], false, false⟩)) #[]).run
          { tree := { entries := [(["t"], .program "true"), (["f"], .program "false")] } }).2) ∧
    ∃ steps r, Runs ⟨"/", [("PATH", "/")], {}⟩
        (.sequence (.sequence (.sequence (.pipeline ⟨[⟨["t"], []⟩], false, false⟩) .or
          (.pipeline ⟨[⟨["f"], []⟩], false, false⟩)) .semi
          (.pipeline ⟨[⟨["nope"], []⟩], false, false⟩)) .semi
          (.pipeline ⟨[⟨["t"], []⟩], false, false⟩))
        { tree := { entries := [(["t"], .program "true"), (["f"], .program "false")] } } steps
        ((runTree ⟨"/", [("PATH", "/")], {}⟩
          (.sequence (.sequence (.sequence (.pipeline ⟨[⟨["t"], []⟩], false, false⟩) .or
            (.pipeline ⟨[⟨["f"], []⟩], false, false⟩)) .semi
            (.pipeline ⟨[⟨["nope"], []⟩], false, false⟩)) .semi
            (.pipeline ⟨[⟨["t"], []⟩], false, false⟩)) #[]).run
          { tree := { entries := [(["t"], .program "true"), (["f"], .program "false")] } }).2 r ∧
      (∀ step ∈ steps, step.2.map Record.command = step.1.commands) ∧
      (Except.ok (.completed (transcript [⟨⟨["t"], []⟩, .empty, .empty, 0⟩,
          ⟨⟨["nope"], []⟩, .empty, ((ExecError.commandNotFound ⟨["nope"], []⟩).message ++ "\n").toUTF8,
            255⟩]) "" 255) : Except ExecError ScriptOutcome) = match r with
        | .ok status => .ok (.completed (transcript (steps.flatMap Prod.snd)) "" (status.getD 0))
        | .error (.commandNotFound c) =>
          .ok (.completed (transcript (steps.flatMap Prod.snd ++
            [{ command := c, output := .empty, code := 255,
               errors := ((ExecError.commandNotFound c).message ++ "\n").toUTF8 }])) "" 255)
        | .error e => .error e := by
  have treeRan : ((runTree ⟨"/", [("PATH", "/")], {}⟩
      (.sequence (.sequence (.sequence (.pipeline ⟨[⟨["t"], []⟩], false, false⟩) .or
        (.pipeline ⟨[⟨["f"], []⟩], false, false⟩)) .semi
        (.pipeline ⟨[⟨["nope"], []⟩], false, false⟩)) .semi
        (.pipeline ⟨[⟨["t"], []⟩], false, false⟩)) #[]).run
      { tree := { entries := [(["t"], .program "true"), (["f"], .program "false")] } }).1 =
      .ok (#[⟨⟨["t"], []⟩, .empty, .empty, 0⟩], .error (.commandNotFound ⟨["nope"], []⟩)) := by
    cbv
  -- the tree's run is evaluated; the transcript after it is only rewritten, never computed
  refine ⟨?ran, in_process_transcript _ _ ?ran⟩
  case ran =>
    unfold runInProcess
    rw [Engine.run_bind, Engine.run_lift]
    rcases h : (runTree ⟨"/", [("PATH", "/")], {}⟩
      (.sequence (.sequence (.sequence (.pipeline ⟨[⟨["t"], []⟩], false, false⟩) .or
        (.pipeline ⟨[⟨["f"], []⟩], false, false⟩)) .semi
        (.pipeline ⟨[⟨["nope"], []⟩], false, false⟩)) .semi
        (.pipeline ⟨[⟨["t"], []⟩], false, false⟩)) #[]).run
      { tree := { entries := [(["t"], .program "true"), (["f"], .program "false")] } } with ⟨res, w₁⟩
    rw [h] at treeRan
    subst treeRan
    dsimp only
    rw [commandNotFound_errors]
    rfl

end Pipework.Run
