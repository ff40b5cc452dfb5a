import Pipework.Proofs.Run.Draining
import Pipework.Proofs.Shell.RoundTrip
import Pipework.Run.Strategy

/-! How a pipeline run is recorded. -/

namespace Pipework.Run

open Pipework.Host Pipework.Shell

/-- The errors of a pipeline whose programs and plans are known: a file or a process that the
system refuses, or a stage killed by an interrupt. -/
def ExecError.ArisesRunning : ExecError → Prop
  | .redirect _ _ | .spawn _ _ | .interrupted _ => True
  | _ => False

/-! ### Finding programs and planning redirections -/

theorem mapM_append_error {ε α β : Type} {f : α → Except ε β} {pre : List α} {x : α}
    {post : List α} {e : ε} (earlier : ∀ y ∈ pre, ∃ b, f y = .ok b) (fails : f x = .error e) :
    (pre ++ x :: post).mapM f = .error e := by
  induction pre with
  | nil => simp [List.mapM_cons, fails, bind, Except.bind]
  | cons y pre ih =>
    obtain ⟨b, found⟩ := earlier y (by simp)
    rw [List.cons_append, List.mapM_cons, found]
    simp [bind, Except.bind, ih fun z mem => earlier z (by simp [mem])]

theorem resolveCommands_commands {ctx : Context} {t : FileTree} {commands : List SimpleCommand}
    {resolved : List (SimpleCommand × String × StreamPlan)}
    (found : resolveCommands ctx t commands = .ok resolved) :
    resolved.map Prod.fst = commands := by
  unfold resolveCommands at found
  obtain ⟨programs, foundPrograms, found⟩ := bind_eq_ok.1 found
  obtain ⟨plans, foundPlans, found⟩ := bind_eq_ok.1 found
  cases found
  have programsLength := (forall₂_of_mapM foundPrograms).length_eq
  have plansLength := (forall₂_of_mapM foundPlans).length_eq
  exact List.map_fst_zip (by simp [← programsLength, ← plansLength])

/-- The first command whose program cannot be found stops the first phase, whatever the
redirections of any command are. -/
theorem resolveCommands_missing {ctx : Context} {t : FileTree} {pre : List SimpleCommand}
    {c : SimpleCommand} {post : List SimpleCommand}
    (earlier : ∀ d ∈ pre, resolveProgram t ctx.cwd ctx.pathVar d.program ≠ none)
    (missing : resolveProgram t ctx.cwd ctx.pathVar c.program = none) :
    resolveCommands ctx t (pre ++ c :: post) = .error (.commandNotFound c) := by
  unfold resolveCommands
  rw [mapM_append_error (e := .commandNotFound c)]
  · rfl
  · intro d mem
    obtain ⟨path, found⟩ := Option.ne_none_iff_exists'.1 (earlier d mem)
    exact ⟨path, by simp [found]; rfl⟩
  · simp [missing]
    rfl

/-! ### Setting up and running the stages -/

theorem openTarget_ensures (ctx : Context) (target : FileTarget) :
    (openTarget ctx target).Ensures (fun _ => True) ExecError.ArisesRunning := by
  unfold openTarget
  dsimp only
  split
  · exact Engine.Ensures.lift _ fun _ => trivial
  · refine Engine.Ensures.bind_lift fun opened => ?_
    split
    · exact Engine.Ensures.pure (by trivial)
    · exact Engine.Ensures.throw (by trivial)

theorem prepareStages_commands (ctx : Context) (commands : List (SimpleCommand × String × StreamPlan)) :
    (prepareStages ctx commands).Ensures (fun prepared => prepared.1.map Stage.command = commands.map Prod.fst)
      ExecError.ArisesRunning := by
  unfold prepareStages
  -- the loop over the commands pushes exactly one stage for each, whatever else it does
  refine Engine.Ensures.bind (Engine.Ensures.forIn
    (fun done s => s.2.1.toList.map Stage.command = (done.map Prod.fst).map Prod.fst) rfl ?step) ?finish
  case finish =>
    rintro ⟨upstream, stages, temps⟩ pushed
    rw [List.zipIdx_map_fst] at pushed
    exact Engine.Ensures.pure pushed
  case step =>
    rintro done ⟨⟨command, program, plan⟩, i⟩ rest s - kept
    dsimp only
    simp only [pure_bind]
    refine Engine.Ensures.bind (Engine.Ensures.tryCatch (Engine.Ensures.mapM_length
      fun target _ => openTarget_ensures ctx target) fun _ => Engine.Ensures.abandon) fun files _ => ?_
    repeat' (first
      | refine Engine.Ensures.bind_lift fun _ => ?_
      | exact Engine.Ensures.bind_abandon (by trivial)
      | exact Engine.Ensures.abandon (by trivial)
      | split)
    all_goals exact Engine.Ensures.pure ⟨_, rfl, by simp [kept]⟩

theorem runStages_length (stages : List Stage) :
    (runStages stages).Ensures (fun results => results.length = stages.length)
      ExecError.ArisesRunning := by
  unfold runStages
  refine Engine.Ensures.mapM_length fun stage _ => ?_
  dsimp only
  simp only [pure_bind]
  repeat' (first
    | refine Engine.Ensures.bind_lift fun _ => ?_
    | exact Engine.Ensures.bind_throw (by trivial)
    | split)
  all_goals exact Engine.Ensures.pure (by trivial)

/-- However many times the stages are run again against full pipes, the results kept are those
of one run of the stages, in stage order. -/
theorem runWithin_staged (stages : List Stage) (rounds : Nat) :
    (runWithin stages rounds).Ensures
      (fun results => ∃ w, ((runStages stages).run.run w).1 = .ok (.ok results))
      ExecError.ArisesRunning := by
  have once : (runStages stages).Ensures
      (fun results => ∃ w, ((runStages stages).run.run w).1 = .ok (.ok results))
      ExecError.ArisesRunning :=
    ⟨fun {w _} ran => ⟨w, ran⟩, (runStages_length stages).error⟩
  induction rounds with
  | zero => exact once
  | succ rounds ih =>
    unfold runWithin
    refine Engine.Ensures.bind_lift fun before => ?_
    refine Engine.Ensures.bind once fun results staged => ?_
    refine Engine.Ensures.bind_lift fun full => ?_
    split
    · exact Engine.Ensures.pure staged
    · exact Engine.Ensures.bind_lift fun _ => ih

/-! ### A finished pipeline -/

/-- What a finished pipeline of `commands` reports, under pipefail and negation as given: one
record per command, in command order, each carrying what its stage gave when the stages ran one
after another; no stage killed by an interrupt; and the code folded from the records' codes in
command order, negated for a negated pipeline. -/
structure Recorded (commands : List SimpleCommand) (pipeFail negate : Bool) (code : Int)
    (records : List Record) : Prop where
  commands_eq : records.map Record.command = commands
  staged : ∃ stages w, stages.map Stage.command = commands ∧
    ((runStages stages).run.run w).1 = .ok (.ok (records.map fun r => (r.output, r.errors, r.code)))
  uninterrupted : ∀ r ∈ records, isInterrupt r.code = false
  folded : code = if negate then negateExitCode (foldExitCodes (records.map Record.code) pipeFail)
    else foldExitCodes (records.map Record.code) pipeFail

/-- Stages that follow the commands, and the results one run of them gave, paired by position,
are a record of the pipeline as `Recorded` says, once no stage was killed by an interrupt. -/
theorem Recorded.of_results {commands : List SimpleCommand} {pipeFail negate : Bool}
    {stages : List Stage} {results : List (ByteArray × ByteArray × Int)} {w : World}
    {records : List Record}
    (paired : records = (stages.zip results).map fun x =>
      { command := x.1.command, output := x.2.1, errors := x.2.2.1, code := x.2.2.2 })
    (follow : stages.map Stage.command = commands)
    (staged : ((runStages stages).run.run w).1 = .ok (.ok results))
    (calm : ∀ r ∈ results, isInterrupt r.2.2 = false) :
    Recorded commands pipeFail negate
      (if negate then negateExitCode (foldExitCodes (records.map Record.code) pipeFail)
        else foldExitCodes (records.map Record.code) pipeFail) records := by
  have lengths : results.length = stages.length := (runStages_length stages).result staged
  have outcomes : records.map (fun r => (r.output, r.errors, r.code)) = results := by
    rw [paired, List.map_map]
    exact List.map_snd_zip (by omega)
  refine ⟨?commands, ⟨stages, w, follow, by rw [outcomes]; exact staged⟩, ?uninterrupted, rfl⟩
  case commands =>
    calc records.map Record.command = ((stages.zip results).map Prod.fst).map Stage.command := by
          simp only [paired, List.map_map]
          rfl
      _ = commands := by rw [List.map_fst_zip (by omega), follow]
  case uninterrupted =>
    intro r recorded
    have outcome : (r.output, r.errors, r.code) ∈ results :=
      outcomes ▸ List.mem_map_of_mem recorded
    exact calm _ outcome

/-- With every slot holding its own stage's output, pairing the stages with the slots, each slot
read with the default for an empty one, pairs them with the outputs themselves. -/
theorem records_of_filled (stages : List Stage) {results : List (ByteArray × ByteArray × Int)}
    {outputs : Array (Option (ByteArray × ByteArray × Int))}
    (filled : outputs.toList = results.map some) :
    ((stages.zip outputs.toList).map fun (x : Stage × Option (ByteArray × ByteArray × Int)) =>
      match x with
      | (stage, output) =>
        match output.getD (ByteArray.empty, ByteArray.empty, 0) with
        | (out, err, code) => ({ command := stage.command, output := out, errors := err, code } : Record)) =
      (stages.zip results).map fun x =>
        { command := x.1.command, output := x.2.1, errors := x.2.2.1, code := x.2.2.2 } := by
  rw [filled, List.zip_map_right, List.map_map]
  rfl

/-- Running the stages of resolved commands, when it finishes, reports them as `Recorded` says;
it stops only as the system refuses a file or a process, or on an interrupt. -/
theorem runResolved_recorded (ctx : Context) (p : Pipeline)
    (resolved : List (SimpleCommand × String × StreamPlan)) :
    (runResolved ctx p resolved).Ensures
      (fun result => Recorded (resolved.map Prod.fst) p.pipeFail p.negate result.1 result.2)
      ExecError.ArisesRunning := by
  unfold runResolved
  refine Engine.Ensures.bind (prepareStages_commands ctx resolved) fun prepared follow => ?_
  refine Engine.Ensures.bind (Engine.Ensures.tryCatch (runWithin_staged prepared.1 _)
    fun _ => Engine.Ensures.abandon) fun results ⟨w, staged⟩ => ?_
  -- the drain stops only on an interrupt, and otherwise fills every slot with its own output
  have drained : (drainStages prepared.1 results).Ensures _ ExecError.ArisesRunning :=
    (drainStages_outputs ((runStages_length prepared.1).result staged)).mono
      (fun _ kept => kept) fun _ ⟨program, interrupted⟩ => by subst interrupted; trivial
  refine Engine.Ensures.bind (Engine.Ensures.tryCatch drained fun _ => Engine.Ensures.abandon)
    fun outputs ⟨filled, calm⟩ => ?_
  -- removing the temporary files acts on the machine only
  refine Engine.Ensures.bind_lift fun _ => ?_
  exact Engine.Ensures.pure (Recorded.of_results (records_of_filled prepared.1 filled) follow staged calm)

/-! ### Whole pipelines -/

@[simp] theorem Sys.tree_run (w : World) : Sys.tree.run w = (.ok w.tree, w) := rfl

/-- A pipeline run: an empty pipeline gives zero at once; otherwise the first phase only reads
the machine's tree, and its error stops the run with the machine as it was. -/
theorem runPipeline_run (ctx : Context) (p : Pipeline) (w : World) :
    (runPipeline ctx p).run.run w =
      if p.commands.isEmpty then (.ok (.ok (0, [])), w)
      else match resolveCommands ctx w.tree p.commands with
        | .error e => (.ok (.error e), w)
        | .ok resolved => (runResolved ctx p resolved).run.run w := by
  unfold runPipeline
  split
  · rfl
  · rw [Engine.run_bind, Engine.run_lift, Sys.tree_run]
    dsimp only
    rcases resolveCommands ctx w.tree p.commands with e | resolved <;> rfl

/-- A pipeline as the sequencer runs it: its records are appended when it finishes, and nothing
is appended when it stops with an error. -/
theorem runTree_pipeline_run (ctx : Context) (p : Pipeline) (acc : Array Record) (w : World) :
    (runTree ctx (.pipeline p) acc).run w =
      if p.commands.isEmpty then (.ok (acc, .ok none), w)
      else match (runPipeline ctx p).run.run w with
        | (.ok (.ok (code, records)), w') => (.ok (acc ++ records.toArray, .ok (some code)), w')
        | (.ok (.error e), w') => (.ok (acc, .error e), w')
        | (.error h, w') => (.error h, w') := by
  simp only [runTree]
  split
  · rfl
  · rw [Sys.run_bind]
    rcases (runPipeline ctx p).run.run w with ⟨r, w'⟩
    rcases r with halt | e | ⟨code, records⟩ <;> rfl

/-- A finished pipeline's run, from the first phase on: the records and code that the stages
of its resolved commands give. -/
theorem runPipeline_recorded {ctx : Context} {p : Pipeline} {w : World} {code : Int}
    {records : List Record} (nonempty : p.commands.isEmpty = false)
    (ran : ((runPipeline ctx p).run.run w).1 = .ok (.ok (code, records))) :
    Recorded p.commands p.pipeFail p.negate code records := by
  rw [runPipeline_run, if_neg (by simp [nonempty])] at ran
  split at ran
  · cases ran
  · next resolved found =>
    have recorded := (runResolved_recorded ctx p resolved).result ran
    rwa [resolveCommands_commands found] at recorded

theorem finished_pipeline_records (ctx : Context) (p : Pipeline)
    {acc acc' : Array Record} {w : World} {code : Int}
    (ran : ((runTree ctx (.pipeline p) acc).run w).1 = .ok (acc', .ok (some code))) :
    ∃ records, acc' = acc ++ records.toArray ∧
      Recorded p.commands p.pipeFail p.negate code records := by
  rw [runTree_pipeline_run] at ran
  split at ran
  · cases ran
  · next nonempty =>
    rcases finished : (runPipeline ctx p).run.run w with ⟨r, w'⟩
    rcases r with halt | e | ⟨code', records⟩ <;> rw [finished] at ran <;> cases ran
    exact ⟨records, rfl, runPipeline_recorded (by simpa using nonempty) (by rw [finished])⟩

/-- A pipeline's results are recorded in command order whatever the order its stages are waited
for. The stages are waited for the last first, each output going to the slot of its stage's
index: every stage still runs when its turn comes, so no turn is passed over, and once the drain
ends every slot holds its own stage's output, so no slot is read as the default. A pipeline that
the sequencer runs to the end therefore appends one record per command, in command order: the
`i`-th carries the `i`-th command and what its stage gave, no stage was killed by an interrupt,
and the pipeline's code is the records' codes folded in command order under its pipefail
setting, negated when the pipeline is. -/
theorem finished_pipeline_appends_records :
    (∀ (stages : List Stage) (results : List (ByteArray × ByteArray × Int)),
      results.length = stages.length →
      (∀ (done : List Nat) (i : Nat) (rest : List Nat) (w : World) (d : Drain),
        drainOrder stages.length = done ++ i :: rest →
        ((done.foldlM Drain.wait (Drain.start stages results)).run.run w).1 = .ok (.ok d) →
        ∃ stage result, stages[i]? = some stage ∧ results[i]? = some result ∧
          d.running[i]? = some (some (stage, result))) ∧
      (∀ (w : World) (outputs : Array (Option (ByteArray × ByteArray × Int))),
        ((drainStages stages results).run.run w).1 = .ok (.ok outputs) →
        outputs.toList = results.map some)) ∧
    ∀ (ctx : Context) (p : Pipeline) (acc acc' : Array Record) (w : World) (code : Int),
      ((runTree ctx (.pipeline p) acc).run w).1 = .ok (acc', .ok (some code)) →
      ∃ records, acc' = acc ++ records.toArray ∧
        Recorded p.commands p.pipeFail p.negate code records :=
  ⟨fun _ _ lengths =>
    ⟨fun _ _ _ _ _ split ran => drain_finds_running lengths split ran,
      fun _ _ ran => ((drainStages_outputs lengths).result ran).1⟩,
    fun ctx p _ _ _ _ ran => finished_pipeline_records ctx p ran⟩

/-- `t x | f` under pipefail, where `t` succeeds and `f` fails: two records in command order,
and the code of the failing stage. -/
theorem finished_pipeline_appends_records_true_false :
    ((runTree ⟨"/", [("PATH", "/")], {}⟩
        (.pipeline ⟨[⟨["t", "x"], []⟩, ⟨["f"], []⟩], true, false⟩) #[]).run
        { tree := { entries := [(["t"], .program "true"), (["f"], .program "false")] } }).1 =
      .ok (#[⟨⟨["t", "x"], []⟩, .empty, .empty, 0⟩, ⟨⟨["f"], []⟩, .empty, .empty, 1⟩], .ok (some 1)) ∧
    ∃ records, #[⟨⟨["t", "x"], []⟩, .empty, .empty, 0⟩, ⟨⟨["f"], []⟩, .empty, .empty, 1⟩] =
        #[] ++ records.toArray ∧
      Recorded [⟨["t", "x"], []⟩, ⟨["f"], []⟩] true false 1 records := by
  have ran : ((runTree ⟨"/", [("PATH", "/")], {}⟩
        (.pipeline ⟨[⟨["t", "x"], []⟩, ⟨["f"], []⟩], true, false⟩) #[]).run
        { tree := { entries := [(["t"], .program "true"), (["f"], .program "false")] } }).1 =
      .ok (#[⟨⟨["t", "x"], []⟩, .empty, .empty, 0⟩, ⟨⟨["f"], []⟩, .empty, .empty, 1⟩], .ok (some 1)) := by
    cbv
  exact ⟨ran, finished_pipeline_appends_records.2 _ _ _ _ _ _ ran⟩

theorem runTree_pipeline_error {ctx : Context} {p : Pipeline} {acc acc' : Array Record} {w : World}
    {e : ExecError} (ran : ((runTree ctx (.pipeline p) acc).run w).1 = .ok (acc', .error e)) :
    acc' = acc := by
  rw [runTree_pipeline_run] at ran
  split at ran
  · cases ran
  · rcases finished : (runPipeline ctx p).run.run w with ⟨r, w'⟩
    rcases r with halt | e' | ⟨code, records⟩ <;> rw [finished] at ran <;> cases ran
    rfl

/-- A missing program or a refused redirection stops a pipeline in its first phase, with the
machine as it was: nothing was opened or started. -/
theorem runPipeline_resolution_error {ctx : Context} {p : Pipeline} {w w' : World} {e : ExecError}
    (ran : (runPipeline ctx p).run.run w = (.ok (.error e), w'))
    (resolution : (∃ c, e = .commandNotFound c) ∨ (∃ what, e = .unsupportedRedirect what)) :
    resolveCommands ctx w.tree p.commands = .error e ∧ w' = w := by
  rw [runPipeline_run] at ran
  split at ran
  · cases ran
  · split at ran
    · next e' failed =>
      cases ran
      exact ⟨failed, rfl⟩
    · next resolved found =>
      have arises := (runResolved_recorded ctx p resolved).error (by rw [ran])
      rcases resolution with ⟨c, rfl⟩ | ⟨what, rfl⟩ <;> exact arises.elim

/-- The first command in command order whose program cannot be found stops the pipeline, with
the machine as it was, whatever redirections any command carries. -/
theorem runPipeline_missing {ctx : Context} {p : Pipeline} {w : World} {pre : List SimpleCommand}
    {c : SimpleCommand} {post : List SimpleCommand} (commands : p.commands = pre ++ c :: post)
    (earlier : ∀ d ∈ pre, resolveProgram w.tree ctx.cwd ctx.pathVar d.program ≠ none)
    (missing : resolveProgram w.tree ctx.cwd ctx.pathVar c.program = none) :
    (runPipeline ctx p).run.run w = (.ok (.error (.commandNotFound c)), w) := by
  rw [runPipeline_run, if_neg (by simp [commands]), commands,
    resolveCommands_missing earlier missing]

/-- A failing pipeline leaves the records as they were; a missing program and a refused
redirection are found before anything is opened or started, so they leave the machine as it
was; and because every program is looked for before any redirection is planned, the first
command in command order whose program cannot be found names the error, even when an earlier
command carries a redirection that would be refused. -/
theorem failed_pipeline_changes_nothing (ctx : Context) (p : Pipeline) :
    (∀ (acc acc' : Array Record) (w : World) (e : ExecError),
      ((runTree ctx (.pipeline p) acc).run w).1 = .ok (acc', .error e) → acc' = acc) ∧
    (∀ (w w' : World) (e : ExecError), (runPipeline ctx p).run.run w = (.ok (.error e), w') →
      (∃ c, e = .commandNotFound c) ∨ (∃ what, e = .unsupportedRedirect what) →
        resolveCommands ctx w.tree p.commands = .error e ∧ w' = w) ∧
    (∀ (w : World) (pre : List SimpleCommand) (c : SimpleCommand) (post : List SimpleCommand),
      p.commands = pre ++ c :: post →
      (∀ d ∈ pre, resolveProgram w.tree ctx.cwd ctx.pathVar d.program ≠ none) →
      resolveProgram w.tree ctx.cwd ctx.pathVar c.program = none →
        (runPipeline ctx p).run.run w = (.ok (.error (.commandNotFound c)), w)) :=
  ⟨fun _ _ _ _ ran => runTree_pipeline_error ran,
    fun _ _ _ ran resolution => runPipeline_resolution_error ran resolution,
    fun _ _ _ _ commands earlier missing => runPipeline_missing commands earlier missing⟩

/-- `t <&x | nope`, where `t` is found and `nope` is not: the missing program is named, although
the redirection of `t` would be refused, and the machine is left as it was. -/
theorem failed_pipeline_missing_program_first :
    (⟨[⟨["t"], [⟨.dupInput, none, "x"⟩]⟩, ⟨["nope"], []⟩], false, false⟩ : Pipeline).commands =
      [⟨["t"], [⟨.dupInput, none, "x"⟩]⟩] ++ ⟨["nope"], []⟩ :: [] ∧
    (∀ d ∈ [(⟨["t"], [⟨.dupInput, none, "x"⟩]⟩ : SimpleCommand)],
      resolveProgram { entries := [(["t"], .program "true")] } "/"
        (⟨"/", [("PATH", "/")], {}⟩ : Context).pathVar d.program ≠ none) ∧
    resolveProgram { entries := [(["t"], .program "true")] } "/"
      (⟨"/", [("PATH", "/")], {}⟩ : Context).pathVar "nope" = none ∧
    (runPipeline ⟨"/", [("PATH", "/")], {}⟩
        ⟨[⟨["t"], [⟨.dupInput, none, "x"⟩]⟩, ⟨["nope"], []⟩], false, false⟩).run.run
        { tree := { entries := [(["t"], .program "true")] } } =
      (.ok (.error (.commandNotFound ⟨["nope"], []⟩)), { tree := { entries := [(["t"], .program "true")] } }) := by
  have earlier : ∀ d ∈ [(⟨["t"], [⟨.dupInput, none, "x"⟩]⟩ : SimpleCommand)],
      resolveProgram { entries := [(["t"], .program "true")] } "/"
        (⟨"/", [("PATH", "/")], {}⟩ : Context).pathVar d.program ≠ none := by
    intro d mem
    rw [List.mem_singleton.1 mem]
    cbv
    exact Option.some_ne_none _
  have missing : resolveProgram { entries := [(["t"], .program "true")] } "/"
      (⟨"/", [("PATH", "/")], {}⟩ : Context).pathVar "nope" = none := by
    cbv
  exact ⟨rfl, earlier, missing,
    (failed_pipeline_changes_nothing _ _).2.2 { tree := { entries := [(["t"], .program "true")] } }
      _ _ [] rfl earlier missing⟩

end Pipework.Run
