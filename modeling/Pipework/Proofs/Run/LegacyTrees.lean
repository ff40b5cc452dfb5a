import Pipework.Proofs.Run.Redirection
import Pipework.Proofs.Shell.RoundTrip
import Pipework.Run.Strategy

/-! What legacy `exec` lines are built into. -/

namespace Pipework.Shell

/-! ### Rendering fails only on words -/

theorem bind_eq_error {ε α β : Type} {x : Except ε α} {f : α → Except ε β} {e : ε} :
    x >>= f = .error e ↔ x = .error e ∨ ∃ a, x = .ok a ∧ f a = .error e := by
  cases x with
  | error e' => simp [bind, Except.bind]
  | ok a => simp [bind, Except.bind]

theorem mapM_error {α β ε : Type} {f : α → Except ε β} :
    ∀ {xs : List α} {e : ε}, xs.mapM f = .error e → ∃ x ∈ xs, f x = .error e
  | [], _, failed => by cases failed
  | x :: xs, e, failed => by
    rw [List.mapM_cons] at failed
    rcases bind_eq_error.1 failed with head | ⟨y, -, rest⟩
    · exact ⟨x, List.mem_cons_self, head⟩
    · rcases bind_eq_error.1 rest with tail | ⟨ys, -, done⟩
      · obtain ⟨x', mem, failedAt⟩ := mapM_error tail
        exact ⟨x', List.mem_cons_of_mem x mem, failedAt⟩
      · cases done

theorem quote_error {a : String} {e : RenderError} (refused : quote a = .error e) :
    e = .unquotable a := by
  unfold quote at refused
  generalize (if (!a.contains '\'') = true then some ("'" ++ a ++ "'")
    else if (!a.contains '"' && !a.contains '$') = true then some ("\"" ++ a ++ "\"")
    else none) = form at refused
  cases form with
  | none => exact (Except.error.inj refused).symm
  | some form =>
    simp only at refused
    split at refused
    · split at refused
      · cases refused
      · exact (Except.error.inj refused).symm
    · exact (Except.error.inj refused).symm

theorem Redirect.render_error {r : Redirect} {e : RenderError} (failed : r.render = .error e) :
    e = .unquotable r.target := by
  rw [Redirect.render_eq] at failed
  split at failed
  · cases failed
  · rcases bind_eq_error.1 failed with quoted | ⟨q, -, done⟩
    · exact quote_error quoted
    · cases done

theorem SimpleCommand.render_error {c : SimpleCommand} {e : RenderError}
    (failed : c.render = .error e) : ∃ a, e = .unquotable a := by
  unfold SimpleCommand.render at failed
  rcases bind_eq_error.1 failed with args | ⟨qs, -, rest⟩
  · obtain ⟨a, -, quoted⟩ := mapM_error args
    exact ⟨a, quote_error quoted⟩
  · rcases bind_eq_error.1 rest with redirects | ⟨rs, -, done⟩
    · obtain ⟨r, -, rendered⟩ := mapM_error redirects
      exact ⟨r.target, Redirect.render_error rendered⟩
    · cases done

theorem Pipeline.render_error {p : Pipeline} {pipeFail : Bool} (agrees : p.pipeFail = pipeFail)
    {e : RenderError} (failed : p.render pipeFail = .error e) : ∃ a, e = .unquotable a := by
  unfold Pipeline.render at failed
  simp only [agrees, bne_self_eq_false, Bool.false_eq_true, if_false] at failed
  rcases bind_eq_error.1 failed with commands | ⟨cs, -, done⟩
  · obtain ⟨c, -, rendered⟩ := mapM_error commands
    exact SimpleCommand.render_error rendered
  · cases done

theorem CommandTree.render_error {pipeFail : Bool} :
    ∀ {t : CommandTree}, (∀ p ∈ t.pipelines, p.pipeFail = pipeFail) →
      ∀ {e : RenderError}, t.render pipeFail = .error e → ∃ a, e = .unquotable a
  | .pipeline p, agrees, _, failed =>
    Pipeline.render_error (agrees p (by simp [CommandTree.pipelines])) failed
  | .sequence left op right, agrees, e, failed => by
    simp only [CommandTree.render] at failed
    rcases bind_eq_error.1 failed with leftFailed | ⟨l, -, rest⟩
    · exact CommandTree.render_error (fun p mem => agrees p (by simp [mem])) leftFailed
    · rcases bind_eq_error.1 rest with rightFailed | ⟨r, -, done⟩
      · exact CommandTree.render_error (fun p mem => agrees p (by simp [mem])) rightFailed
      · cases done

end Pipework.Shell

namespace Pipework.Run

open Pipework.Shell

namespace StreamPlan

theorem points_error_writes {r : Redirect} (pointed : points r .error = true) :
    (opened r).map FileTarget.mode ≠ some .read := by
  obtain ⟨op, fd, target⟩ := r
  cases op <;> simp_all [points, opened]

/-- Where errors may go in a plan: not on the input, neither its default nor a file opened for
reading, and the output is not on the input either. -/
structure ErrorsWrite (q : StreamPlan) : Prop where
  output : q.output ≠ .default .input
  error : q.error ≠ .default .input
  errorWrites : q.modeOf q.error ≠ some .read

theorem errorsWrite_default : ErrorsWrite {} where
  output := by simp
  error := by simp
  errorWrites := by simp [modeOf]

theorem ErrorsWrite.step {q : StreamPlan} (coherent : q.Coherent) (errs : q.ErrorsWrite)
    {r : Redirect} (copies : ∀ s, copySource r = some s → s = .output) : (q.step r).ErrorsWrite where
  output := by
    show (if points r .output then .file q.files.length else q.output) ≠ _
    split
    · simp
    · exact errs.output
  error := by
    show (if points r .error then Slot.file q.files.length else _) ≠ _
    split
    · simp
    · split
      · next s copied =>
        rw [copies s copied]
        exact errs.output
      · exact errs.error
  errorWrites := by
    show (q.step r).modeOf (if points r .error then Slot.file q.files.length else _) ≠ _
    split
    · next pointed =>
      -- the new file is the one the redirection opens
      obtain ⟨f, opens⟩ := points_opened pointed
      have writes := points_error_writes pointed
      rw [opens] at writes
      simpa [modeOf, opens] using writes
    · split
      · next s copied =>
        rw [copies s copied, modeOf_append (q.slotOf .output) (coherent.indexed .output)
          (opened r).toList (q.step r) rfl]
        exact coherent.outputWrites
      · rw [modeOf_append q.error (coherent.indexed .error) (opened r).toList
          (q.step r) rfl]
        exact errs.errorWrites

end StreamPlan

end Pipework.Run

namespace Pipework.Tcl

open Pipework.Shell Pipework.Run

/-- The redirections of `exec` pipelines: `>` and `>>` with no descriptor or 2, `<` and `&>`
with no descriptor, and `2>&1`. -/
def ExecRedirect (r : Redirect) : Prop :=
  (r.op = .output ∨ r.op = .append) ∧ (r.fd = none ∨ r.fd = some 2) ∨
  (r.op = .input ∨ r.op = .both) ∧ r.fd = none ∨
  r = errorsToOutput

theorem execRedirect_of_row {pfx : String} {op : RedirectOp} {fd : Option Nat}
    (row : (pfx, op, fd) ∈ execRedirects) (target : String) : ExecRedirect ⟨op, fd, target⟩ := by
  simp only [execRedirects, List.mem_cons, Prod.mk.injEq, List.not_mem_nil, or_false] at row
  rcases row with ⟨-, rfl, rfl⟩ | ⟨-, rfl, rfl⟩ | ⟨-, rfl, rfl⟩ | ⟨-, rfl, rfl⟩ | ⟨-, rfl, rfl⟩ |
      ⟨-, rfl, rfl⟩ <;> simp [ExecRedirect]

/-- A pipeline as `exec` words build it: it fails when any command fails, it is not negated,
every command has its program and only `exec` redirections. -/
structure ExecPipeline (p : Pipeline) : Prop where
  pipeFail : p.pipeFail = true
  plain : p.negate = false
  programs : ∀ c ∈ p.commands, c.args ≠ []
  redirects : ∀ c ∈ p.commands, ∀ r ∈ c.redirects, ExecRedirect r

/-- The redirections of commands. -/
def redirectsOf (cs : List SimpleCommand) : List Redirect :=
  cs.flatMap SimpleCommand.redirects

theorem redirectsOf_append_redirect (done : List SimpleCommand) (current : SimpleCommand)
    (r : Redirect) :
    redirectsOf (done ++ [{ current with redirects := current.redirects ++ [r] }]) =
      redirectsOf (done ++ [current]) ++ [r] := by
  simp [redirectsOf]

/-- Building from `exec` words gives a pipeline that fails when any command fails, is not
negated, and whose redirections are those of the words. -/
theorem buildFrom_exec {done : List SimpleCommand} {current : SimpleCommand} {words : List String}
    {p : Pipeline} (kept : ∀ r ∈ redirectsOf (done ++ [current]), ExecRedirect r)
    (built : buildFrom done current words = .ok p) :
    p.pipeFail = true ∧ p.negate = false ∧ ∀ r ∈ redirectsOf p.commands, ExecRedirect r := by
  have added : ∀ {done current r}, (∀ r ∈ redirectsOf (done ++ [current]), ExecRedirect r) →
      ExecRedirect r →
      ∀ r' ∈ redirectsOf (done ++ [{ current with redirects := current.redirects ++ [r] }]),
        ExecRedirect r' := by
    intro done current r kept shaped r' mem
    rw [redirectsOf_append_redirect] at mem
    rcases List.mem_append.1 mem with old | new
    · exact kept r' old
    · rw [List.mem_singleton.1 new]
      exact shaped
  fun_induction buildFrom done current words
  case case2 =>
    cases built
    exact ⟨rfl, rfl, kept⟩
  case case4 done current w rest _ _ finished ih =>
    -- the finished command keeps its redirections, with `2>&1` after them for `|&`
    refine ih (fun r mem => ?_) built
    have closed : ∀ r ∈ redirectsOf (done ++ [finished]), ExecRedirect r := by
      simp only [finished]
      split
      · exact added kept (.inr (.inr rfl))
      · exact kept
    simpa [redirectsOf] using closed r (by simpa [redirectsOf] using mem)
  case case6 ih => exact ih (added kept (.inr (.inr rfl))) built
  case case8 done current w _ _ _ _ ih => exact ih (by simpa [redirectsOf] using kept) built
  case case9 role ih =>
    obtain ⟨pfx, row⟩ := roleOf_row (.inl role)
    exact ih (added kept (execRedirect_of_row row _)) built
  case case11 role _ _ ih =>
    obtain ⟨pfx, row⟩ := roleOf_row (.inr role)
    exact ih (added kept (execRedirect_of_row row _)) built
  -- the other words are refused
  case case1 | case3 | case5 | case7 | case10 => cases built

theorem buildPipeline_exec {words : List String} {p : Pipeline} (built : buildPipeline words = .ok p) :
    ExecPipeline p := by
  obtain ⟨pipeFail, plain, redirects⟩ := buildFrom_exec (by simp [redirectsOf]) built
  refine ⟨pipeFail, plain, fun c mem => ((buildPipeline_wellFormed built).commands c mem).program,
    fun c mem r inner => redirects r ?_⟩
  simp only [redirectsOf, List.mem_flatMap]
  exact ⟨c, mem, inner⟩

/-- The instrumentation in front of the first command's words keeps a pipeline as `exec` words
build it. -/
theorem ExecPipeline.instrument {p : Pipeline} (exec : ExecPipeline p) (instrumentation : List String) :
    ExecPipeline { p with commands := match p.commands with
      | first :: rest => { first with args := instrumentation ++ first.args } :: rest
      | [] => [] } := by
  obtain ⟨cs, pipeFail, negate⟩ := p
  obtain ⟨samePipeFail, plain, programs, redirects⟩ := exec
  cases cs with
  | nil => exact ⟨samePipeFail, plain, by simp, by simp⟩
  | cons first rest =>
    refine ⟨samePipeFail, plain, fun c mem => ?_, fun c mem => ?_⟩
    · rcases List.mem_cons.1 mem with rfl | later
      · simpa using fun _ => programs first List.mem_cons_self
      · exact programs c (List.mem_cons_of_mem first later)
    · rcases List.mem_cons.1 mem with rfl | later
      · exact redirects first List.mem_cons_self
      · exact redirects c (List.mem_cons_of_mem first later)

theorem ExecRedirect.accepts {r : Redirect} (shaped : ExecRedirect r) : StreamPlan.Accepts r := by
  obtain ⟨op, fd, target⟩ := r
  rcases shaped with ⟨ops, rfl | rfl⟩ | ⟨rfl | rfl, rfl⟩ | same
  · exact .inl ⟨ops, .inl rfl⟩
  · exact .inl ⟨ops, .inr (.inr rfl)⟩
  · exact .inr (.inl ⟨rfl, .inl rfl⟩)
  · exact .inr (.inr (.inr (.inr ⟨rfl, rfl⟩)))
  · cases same
    exact .inr (.inr (.inl ⟨rfl, rfl, by simp⟩))

theorem ExecRedirect.copies_output {r : Redirect} (shaped : ExecRedirect r) :
    ∀ s, StreamPlan.copySource r = some s → s = .output := by
  intro s copied
  obtain ⟨op, fd, target⟩ := r
  rcases shaped with ⟨ops, fds⟩ | ⟨ops, rfl⟩ | same
  · rcases ops with rfl | rfl <;> simp [StreamPlan.copySource] at copied
  · rcases ops with rfl | rfl <;> simp [StreamPlan.copySource] at copied
  · cases same
    simpa [StreamPlan.copySource, Run.Stream.ofTarget?] using copied.symm

theorem ofRedirects_of_exec {rs : List Redirect} (shaped : ∀ r ∈ rs, ExecRedirect r) :
    ∃ p, StreamPlan.ofRedirects rs = .ok p := by
  have kept : ∀ (rs : List Redirect) (q : StreamPlan), q.Coherent → q.ErrorsWrite →
      (∀ r ∈ rs, ExecRedirect r) → (rs.foldl StreamPlan.step q).ErrorsWrite := by
    intro rs
    induction rs with
    | nil => exact fun q _ errs _ => errs
    | cons r rs ih =>
      intro q coherent errs shaped
      exact ih (q.step r) (coherent.step r)
        (errs.step coherent (shaped r List.mem_cons_self).copies_output)
        fun r' mem => shaped r' (List.mem_cons_of_mem r mem)
  have errs := kept rs {} StreamPlan.coherent_default StreamPlan.errorsWrite_default shaped
  have coherent := StreamPlan.coherent_default.foldl rs
  rcases StreamPlan.ofRedirects_cases rs with ⟨_, r, _, rfl, _, refused, _⟩ | ⟨_, _, validated⟩
  · exact absurd (shaped r (by simp)).accepts refused
  · exact ⟨_, validated.trans (StreamPlan.validate_eq_ok.2
      ⟨rfl, coherent.outputWrites, errs.error, errs.errorWrites⟩)⟩

theorem ExecPipeline.planned {p : Pipeline} (exec : ExecPipeline p) :
    ∀ c ∈ p.commands, ∃ plan, StreamPlan.ofRedirects c.redirects = .ok plan :=
  fun c mem => ofRedirects_of_exec (exec.redirects c mem)

theorem ExecPipeline.render_error {p : Pipeline} (exec : ExecPipeline p) {e : RenderError}
    (failed : (CommandTree.pipeline p).render true = .error e) : ∃ a, e = .unquotable a :=
  CommandTree.render_error (fun q mem => by
    obtain rfl : q = p := by simpa [CommandTree.pipelines] using mem
    exact exec.pipeFail) failed

end Pipework.Tcl

namespace Pipework.Run

open Pipework.Shell Pipework.Tcl

/-! ### Legacy lines -/

theorem forIn_ok_of_body {ε σ β : Type} (Inv : σ → Prop) {xs : List β} {init : σ}
    {body : β → σ → Except ε (ForInStep σ)} {s : σ} (start : Inv init)
    (each : ∀ x s step, Inv s → body x s = .ok step → Inv step.value)
    (finished : forIn xs init body = .ok s) : Inv s := by
  induction xs generalizing init with
  | nil =>
    cases finished
    exact start
  | cons x xs ih =>
    rw [List.forIn_cons] at finished
    rcases stepped : body x init with e | step <;> rw [stepped] at finished
    · cases finished
    · cases step with
      | done s' =>
        cases finished
        exact each x init _ start stepped
      | yield s' => exact ih (each x init (.yield s') start stepped) finished

theorem readResolved_built {line : String} {tokens : List WordToken} {p : Pipeline}
    (read : readResolved line = .built tokens (.ok p)) : buildPipeline (wordsOf tokens) = .ok p := by
  unfold readResolved at read
  split at read
  · cases read
  · split at read
    · cases read
    · obtain ⟨rfl, built⟩ := LineReading.built.inj read
      exact built

/-- Every pipeline of a tree built from legacy lines is an `exec` pipeline, with the
instrumentation in front of its first command. -/
theorem buildLegacy_pipelines {instrumentation lines : List String} {n : CommandTree}
    (built : buildLegacy instrumentation lines = .ok (some n)) : ∀ p ∈ n.pipelines, ExecPipeline p := by
  unfold buildLegacy at built
  dsimp only at built
  obtain ⟨arr, looped, chained⟩ := bind_eq_ok.1 built
  -- every tree the loop collects is one `exec` pipeline
  have collected : ∀ t ∈ arr.toList, ∃ p, t = .pipeline p ∧ ExecPipeline p := by
    refine forIn_ok_of_body (fun pipelines : Array CommandTree =>
      ∀ t ∈ pipelines.toList, ∃ p, t = .pipeline p ∧ ExecPipeline p) ?_
      (fun raw arr step kept stepped => ?_) looped
    · intro t mem
      simp at mem
    split at stepped
    · cases stepped
    · cases stepped
    · cases stepped
    · next tokens p read =>
      cases stepped
      intro t mem
      simp only [ForInStep.value, Array.toList_push, List.mem_append, List.mem_singleton] at mem
      rcases mem with old | rfl
      · exact kept t old
      · exact ⟨_, rfl, (buildPipeline_exec (readResolved_built read)).instrument instrumentation⟩
  have chain_eq : CommandTree.chain .and arr.toList = some n := Except.ok.inj chained
  intro p mem
  cases spelled : arr.toList with
  | nil => simp [spelled, CommandTree.chain] at chain_eq
  | cons t ts =>
    have pipelines := CommandTree.pipelines_chain .and t ts
    rw [← spelled, chain_eq] at pipelines
    simp only [Option.map_some, Option.some.injEq] at pipelines
    rw [pipelines, List.mem_flatten] at mem
    obtain ⟨ps, inMap, inner⟩ := mem
    obtain ⟨t', inArr, rfl⟩ := List.mem_map.1 inMap
    obtain ⟨p', rfl, exec⟩ := collected t' (spelled ▸ inArr)
    obtain rfl : p = p' := by simpa [CommandTree.pipelines] using inner
    exact exec

/-- Legacy `exec` lines never reach a refused redirection or a pipefail mismatch: every pipeline
built from `exec` words, and every pipeline of a tree built from legacy lines, fails when any
command fails, is not negated, has a program in each command and only `>`, `>>` (no descriptor
or 2), `<`, `&>` and `2>&1` redirections, so each command's redirections make a stream plan, and
rendering for a shell with pipefail set can fail only on a word that cannot be quoted. -/
theorem legacy_pipelines_plan_and_render :
    (∀ (words : List String) (p : Pipeline), buildPipeline words = .ok p →
      ExecPipeline p ∧ (∀ c ∈ p.commands, ∃ plan, StreamPlan.ofRedirects c.redirects = .ok plan) ∧
      ∀ e, (CommandTree.pipeline p).render true = .error e → ∃ a, e = .unquotable a) ∧
    (∀ (instrumentation lines : List String) (n : CommandTree),
      buildLegacy instrumentation lines = .ok (some n) →
      (∀ p ∈ n.pipelines, ExecPipeline p ∧
        ∀ c ∈ p.commands, ∃ plan, StreamPlan.ofRedirects c.redirects = .ok plan) ∧
      ∀ e, n.render true = .error e → ∃ a, e = .unquotable a) := by
  refine ⟨fun words p built => ?_, fun instrumentation lines n built => ?_⟩
  · have exec := buildPipeline_exec built
    exact ⟨exec, exec.planned, fun e failed => exec.render_error failed⟩
  · have pipelines := buildLegacy_pipelines built
    refine ⟨fun p mem => ⟨pipelines p mem, (pipelines p mem).planned⟩, fun e failed => ?_⟩
    exact CommandTree.render_error (fun p mem => (pipelines p mem).pipeFail) failed

/-- `sort |& wc >out`: the errors of `sort` go down the pipe with its output, and the
redirections of both commands make stream plans. -/
theorem legacy_pipelines_plan_and_render_merged :
    buildPipeline ["sort", "|&", "wc", ">out"] =
        .ok ⟨[⟨["sort"], [errorsToOutput]⟩, ⟨["wc"], [⟨.output, none, "out"⟩]⟩], true, false⟩ ∧
      ExecPipeline ⟨[⟨["sort"], [errorsToOutput]⟩, ⟨["wc"], [⟨.output, none, "out"⟩]⟩], true, false⟩ ∧
      ∀ c ∈ ([⟨["sort"], [errorsToOutput]⟩, ⟨["wc"], [⟨.output, none, "out"⟩]⟩] : List SimpleCommand),
        ∃ plan, StreamPlan.ofRedirects c.redirects = .ok plan := by
  have built : buildPipeline ["sort", "|&", "wc", ">out"] =
      .ok ⟨[⟨["sort"], [errorsToOutput]⟩, ⟨["wc"], [⟨.output, none, "out"⟩]⟩], true, false⟩ := by
    cbv
  obtain ⟨exec, planned, -⟩ := legacy_pipelines_plan_and_render.1 _ _ built
  exact ⟨built, exec, planned⟩

end Pipework.Run
