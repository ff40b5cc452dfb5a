import Pipework.Proofs.Run.Transcript
import Pipework.Run.Runner

/-! How errors written by legacy lines reach the verdict. -/

namespace Pipework.Run

open Pipework.Host Pipework.Shell

/-- An outcome that reports no errors beside its output: a verdict, or a completion whose errors
are empty. -/
def ScriptOutcome.NoErrors : ScriptOutcome → Prop
  | .completed _ errors _ => errors = ""
  | .verdict _ _ => True

theorem forIn_error_of_body {ε σ β : Type} {P : ε → Prop} {xs : List β} {init : σ}
    {body : β → σ → Except ε (ForInStep σ)} {e : ε} (each : ∀ x s e, body x s = .error e → P e)
    (failed : forIn xs init body = .error e) : P e := by
  induction xs generalizing init with
  | nil => cases failed
  | cons x xs ih =>
    rw [List.forIn_cons] at failed
    rcases stepped : body x init with e' | step <;> rw [stepped] at failed
    · cases failed
      exact each x init _ stepped
    · cases step with
      | done s => cases failed
      | yield s => exact ih failed

theorem error_of_bind_pure {ε α β : Type} {x : Except ε α} {f : α → β} {e : ε}
    (failed : (x >>= fun a => pure (f a)) = .error e) : x = .error e := by
  cases x with
  | error e' => simpa [bind, Except.bind] using failed
  | ok a => cases failed

theorem buildLegacy_error {instrumentation lines : List String} {o : ScriptOutcome}
    (refused : buildLegacy instrumentation lines = .error o) : ∃ d, o = .fail d := by
  unfold buildLegacy at refused
  dsimp only at refused
  -- the chain is built after the loop over the lines, so only a line can refuse
  refine forIn_error_of_body (P := fun o => ∃ d, o = .fail d) (fun raw s e stepped => ?_)
    (error_of_bind_pure refused)
  split at stepped
  · cases stepped
    exact ⟨_, rfl⟩
  · cases stepped
    exact ⟨_, rfl⟩
  · cases stepped
    exact ⟨_, rfl⟩
  · cases stepped

theorem runInProcess_noErrors (ctx : Context) (tree : CommandTree) :
    (runInProcess ctx tree).Ensures ScriptOutcome.NoErrors fun _ => True := by
  unfold runInProcess
  refine Engine.Ensures.bind_lift fun ⟨records, r⟩ => ?_
  dsimp only
  split
  · exact Engine.Ensures.pure rfl
  · exact Engine.Ensures.pure rfl
  · exact Engine.Ensures.throw trivial

theorem runStrategy_tcl_noErrors (config : RunConfig) (ctx : Context) (lines : List String)
    (tmpBase : String)
    (inProcess : (if config.legacyViaExternalShell then config.externalShellPath else none) = none) :
    (runStrategy config ctx .tcl lines tmpBase).Ensures ScriptOutcome.NoErrors fun _ => True := by
  unfold runStrategy
  dsimp only
  split
  · next outcome refused =>
    obtain ⟨d, rfl⟩ := buildLegacy_error refused
    exact Engine.Ensures.pure trivial
  · exact Engine.Ensures.pure rfl
  · rw [inProcess]
    exact runInProcess_noErrors ctx _

theorem Completion.judge_of_errors_empty (c : Completion) (expectFailure : Bool)
    (policy policy' : StderrPolicy) (showOutput : Bool) (silent : c.errors = "") :
    c.judge expectFailure policy showOutput = c.judge expectFailure policy' showOutput := by
  have quiet : (!c.errors.isEmpty) = false := by simp [silent]
  simp only [Completion.judge, quiet, Bool.and_false]

/-- In process, a legacy test runs exactly as it does with errors ignored: the two settings differ
only in the policy a completion is judged under, and no completion in process reports errors. -/
theorem runTest_tcl_in_process (config : RunConfig) (spec : TestSpec)
    (inProcess : (if config.legacyViaExternalShell then config.externalShellPath else none) = none) :
    runTest config spec .tcl = runTest { config with ignoreStderrAsFailure := true } spec .tcl := by
  have sameRun : runStrategy { config with ignoreStderrAsFailure := true } = runStrategy config := rfl
  have sameHost : ({ config with ignoreStderrAsFailure := true } : RunConfig).host = config.host := rfl
  unfold runTest
  dsimp only
  rw [sameRun, sameHost]
  split_ifs
  · rfl
  · rfl
  · rfl
  · refine congrArg (prepareTmpBase spec.tmpBase >>= ·) (funext fun tmpBase => ?_)
    refine Engine.Ensures.bind_congr (runStrategy_tcl_noErrors config _ spec.script tmpBase inProcess) ?_
    rintro (⟨output, errors, code⟩ | ⟨v, diagnostic⟩) quiet
    · exact congrArg pure (Completion.judge_of_errors_empty _ _ _ _ _ quiet)
    · rfl

theorem Completion.judge_tcl_errors (config : RunConfig) (c : Completion)
    (notIgnored : config.ignoreStderrAsFailure = false) (exited : c.code = 0) (written : c.errors ≠ "") :
    (c.judge false (stderrPolicy config .tcl) false).verdict = .fail := by
  have failedByErrors : (!c.errors.isEmpty) = true := by simpa using written
  unfold Completion.judge
  dsimp only
  split <;> simp [stderrPolicy, notIgnored, exited, failedByErrors, Verdict.ofFailure]

/-- Errors written by legacy lines fail a test only where the run reports them beside its output.
Under the legacy policy a completion that exits with zero but reports errors fails, unless errors
are ignored, and that is what a run through an external shell reports. A run in process reports
no errors, since each command's errors are in its record of the transcript; so in process a
legacy test runs exactly as it does with errors ignored, and passes when its commands exit with
zero, whatever they wrote as errors. -/
theorem legacy_stderr_fails_only_through_shell (config : RunConfig) (spec : TestSpec) :
    (config.ignoreStderrAsFailure = false → ∀ c : Completion, c.code = 0 → c.errors ≠ "" →
      (c.judge false (stderrPolicy config .tcl) false).verdict = .fail) ∧
    (∀ (ctx : Context) (tree : CommandTree),
      (runInProcess ctx tree).Ensures ScriptOutcome.NoErrors fun _ => True) ∧
    ((if config.legacyViaExternalShell then config.externalShellPath else none) = none →
      runTest config spec .tcl = runTest { config with ignoreStderrAsFailure := true } spec .tcl) :=
  ⟨fun notIgnored c exited written => Completion.judge_tcl_errors config c notIgnored exited written,
    runInProcess_noErrors, runTest_tcl_in_process config spec⟩

set_option maxRecDepth 20000 in
/-- `tr a\\ b` as a legacy line, run in process with errors not ignored: `tr` warns on its errors
that a backslash ends its set and exits with zero, and the test passes. -/
theorem legacy_in_process_passes_despite_warning :
    ((runTree { cwd := "/", env := [("PATH", "/")], host := ({} : RunConfig).host }
        (.pipeline ⟨[⟨["tr", "a\\", "b"], []⟩], true, false⟩) #[]).run
        { tree := { entries := [(["tr"], .program "tr")] } }).1 =
      .ok (#[⟨⟨["tr", "a\\", "b"], []⟩, .empty,
        "/tr: warning: an unescaped backslash at end of string is not portable\n".toUTF8, 0⟩], .ok (some 0)) ∧
    ((runTest {} { script := ["tr a\\\\ b"], cwd := "/", env := [("PATH", "/")], tmpBase := some "t" }
        .tcl).run.run { tree := { entries := [(["tr"], .program "tr")] } }).1 = .ok (.ok ⟨.pass, ""⟩) := by
  have built : buildLegacy [] ["tr a\\\\ b"] =
      .ok (some (.pipeline ⟨[⟨["tr", "a\\", "b"], []⟩], true, false⟩)) := by
    cbv
  have prepared : (prepareTmpBase (some "t")).run.run { tree := { entries := [(["tr"], .program "tr")] } } =
      (.ok (.ok "t"), { tree := { entries := [(["tr"], .program "tr")] } }) := by
    cbv
  have warned : ((runTree { cwd := "/", env := [("PATH", "/")], host := ({} : RunConfig).host }
        (.pipeline ⟨[⟨["tr", "a\\", "b"], []⟩], true, false⟩) #[]).run
        { tree := { entries := [(["tr"], .program "tr")] } }).1 =
      .ok (#[⟨⟨["tr", "a\\", "b"], []⟩, .empty,
        "/tr: warning: an unescaped backslash at end of string is not portable\n".toUTF8, 0⟩], .ok (some 0)) := by
    cbv
  refine ⟨warned, ?_⟩
  -- the test's run, step by step: the base path, the legacy line, the tree in process
  unfold runTest
  simp only [Bool.false_eq_true, if_false, List.isEmpty_cons]
  rw [Engine.run_bind, prepared]
  dsimp only
  rw [Engine.run_bind]
  unfold runStrategy
  simp only [built, ite_self]
  unfold runInProcess
  rw [Engine.run_bind, Engine.run_lift]
  rcases ran : (runTree { cwd := "/", env := [("PATH", "/")], host := ({} : RunConfig).host }
      (.pipeline ⟨[⟨["tr", "a\\", "b"], []⟩], true, false⟩) #[]).run
      { tree := { entries := [(["tr"], .program "tr")] } } with ⟨res, w₁⟩
  rw [ran] at warned
  dsimp only at warned
  subst warned
  -- the verdict is read off the exit code alone: the transcript is never computed
  rfl

end Pipework.Run
