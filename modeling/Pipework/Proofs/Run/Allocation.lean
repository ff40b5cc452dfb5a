import Mathlib
import Pipework.Proofs.Run.Recording

/-! How setting up a pipeline changes the machine's table of open descriptions. -/

namespace Pipework.Host

/-- The machine `w'` keeps every description of `w` at its index, and may have more after them. -/
def World.Extends (w w' : World) : Prop :=
  w.table.toList <+: w'.table.toList

/-- Whether a description of the machine is a pipe. -/
def World.IsPipe (w : World) (d : Nat) : Prop :=
  ∃ desc feed, w.table[d]? = some desc ∧ desc.backing = .pipe feed

namespace World.Extends

variable {w w₁ w₂ w' : World}

theorem refl (w : World) : w.Extends w :=
  List.prefix_refl _

theorem trans (first : w.Extends w₁) (second : w₁.Extends w₂) : w.Extends w₂ :=
  List.IsPrefix.trans first second

theorem push (w : World) (desc : Description) : w.Extends { w with table := w.table.push desc } := by
  simp [World.Extends]

theorem of_table (same : w'.table = w.table) : w.Extends w' := by
  simp [World.Extends, same]

theorem size_le (grows : w.Extends w') : w.table.size ≤ w'.table.size := by
  simpa using grows.length_le

theorem getElem? (grows : w.Extends w') {d : Nat} (allocated : d < w.table.size) :
    w'.table[d]? = w.table[d]? := by
  obtain ⟨made, extended⟩ := grows
  rw [← Array.getElem?_toList, ← Array.getElem?_toList, ← extended]
  exact List.getElem?_append_left (by simpa using allocated)

theorem isPipe_iff (grows : w.Extends w') {d : Nat} (allocated : d < w.table.size) :
    w'.IsPipe d ↔ w.IsPipe d := by
  simp only [World.IsPipe, grows.getElem? allocated]

end World.Extends

end Pipework.Host

namespace Pipework.Run

open Pipework.Host

namespace Sys

@[simp] theorem pure_run {α : Type} (a : α) (w : World) : (pure a : Sys α).run w = (.ok a, w) := rfl

@[simp] theorem addDesc_run (desc : Description) (w : World) :
    (Sys.addDesc desc).run w = (.ok w.table.size, { w with table := w.table.push desc }) := rfl

@[simp] theorem newPipe_run (w : World) :
    Sys.newPipe.run w = (.ok w.table.size,
      { w with table := w.table.push { backing := .pipe {}, readable := true, writable := true } }) :=
  rfl

@[simp] theorem newScratch_run (w : World) :
    Sys.newScratch.run w = (.ok w.table.size,
      { w with table := w.table.push { backing := .scratch .empty, readable := true, writable := true } }) :=
  rfl

@[simp] theorem setTree_run (t : FileTree) (w : World) :
    (Sys.setTree t).run w = (.ok (), { w with tree := t }) := rfl

/-- An action of the machine that leaves the table of descriptions as it was, however it ends. -/
def KeepsTable {α : Type} (x : Sys α) : Prop :=
  ∀ w, (x.run w).2.table = w.table

namespace KeepsTable

variable {α β σ : Type}

theorem pure' (a : α) : KeepsTable (pure a : Sys α) := fun _ => rfl

theorem bind {x : Sys α} {f : α → Sys β} (first : KeepsTable x) (next : ∀ a, KeepsTable (f a)) :
    KeepsTable (x >>= f) := by
  intro w
  rw [Sys.run_bind]
  rcases ran : x.run w with ⟨r, w₁⟩
  have kept := first w
  rw [ran] at kept
  rcases r with halt | a
  · exact kept
  · exact (next a w₁).trans kept

theorem forIn' {xs : List β} {init : σ} {body : β → σ → Sys (ForInStep σ)}
    (each : ∀ x s, KeepsTable (body x s)) : KeepsTable (forIn xs init body) := by
  induction xs generalizing init with
  | nil => exact pure' init
  | cons x xs ih =>
    rw [List.forIn_cons]
    refine bind (each x init) fun r => ?_
    cases r with
    | done s => exact pure' s
    | yield s => exact ih

theorem tree : KeepsTable Sys.tree := fun _ => rfl

theorem setTree (t : FileTree) : KeepsTable (Sys.setTree t) := fun _ => rfl

theorem tempName : KeepsTable Sys.tempName := fun _ => rfl

theorem newPid : KeepsTable Sys.newPid := fun _ => rfl

end KeepsTable

/-- Opening a path, when it gives a description, adds exactly that one to the table, and it is
not a pipe. -/
theorem openPath_ok {p : Proc} {path : String} {access : Access} {w w' : World} {d : Nat}
    (ran : (Sys.openPath p path access).run w = (.ok (.ok d), w')) :
    d = w.table.size ∧ ∃ desc, w'.table = w.table.push desc ∧ ∀ feed, desc.backing ≠ .pipe feed := by
  unfold Sys.openPath at ran
  simp only [Sys.run_bind, Sys.tree_run] at ran
  repeat' split at ran
  all_goals
    simp only [Sys.run_bind, Sys.addDesc_run, Sys.setTree_run, ExceptT.pure, ExceptT.run_mk, pure,
      StateT.pure] at ran
    injection ran with result world
    simp only [Except.ok.injEq, reduceCtorEq] at result
  -- every branch that gives a description added it, built in place
  all_goals
    subst result world
    exact ⟨rfl, _, rfl, fun _ => by simp⟩

theorem KeepsTable.table_eq {α : Type} {x : Sys α} (keeps : KeepsTable x) {w w' : World}
    {r : Except Halt α} (ran : x.run w = (r, w')) : w'.table = w.table := by
  have kept := keeps w
  rwa [ran] at kept

end Sys

/-! ### Runs of the engine that end with a result -/

namespace Engine

variable {α β σ : Type} {w w' : World}

theorem bind_ok {x : Engine α} {f : α → Engine β} {b : β} {w'' : World}
    (ran : (x >>= f).run.run w = (.ok (.ok b), w'')) :
    ∃ a w', x.run.run w = (.ok (.ok a), w') ∧ (f a).run.run w' = (.ok (.ok b), w'') := by
  rw [Engine.run_bind] at ran
  rcases first : x.run.run w with ⟨r, w₁⟩
  rcases r with halt | e | a <;> rw [first] at ran
  · cases ran
  · cases ran
  · exact ⟨a, w₁, rfl, ran⟩

theorem lift_ok {x : Sys α} {a : α} (ran : (monadLift x : Engine α).run.run w = (.ok (.ok a), w')) :
    x.run w = (.ok a, w') := by
  rw [Engine.run_lift] at ran
  rcases step : x.run w with ⟨r, w₁⟩
  rcases r with halt | a' <;> rw [step] at ran <;> cases ran
  rfl

theorem pure_ok {a b : α} (ran : (pure a : Engine α).run.run w = (.ok (.ok b), w')) :
    b = a ∧ w' = w := by
  cases ran
  exact ⟨rfl, rfl⟩

theorem throw_ok {e : ExecError} {b : α} (ran : (throw e : Engine α).run.run w = (.ok (.ok b), w')) :
    False := by
  cases ran

theorem abandon_ok {temps : List String} {e : ExecError} {b : α}
    (ran : (abandon temps e : Engine α).run.run w = (.ok (.ok b), w')) : False := by
  obtain ⟨u, w₁, -, thrown⟩ := bind_ok ran
  exact throw_ok thrown

/-- An action whose errors are answered by giving up, when it ends with a result, ran to that
result itself. -/
theorem tryCatch_abandon_ok {temps : List String} {x : Engine α} {a : α}
    (ran : (tryCatch x (abandon temps)).run.run w = (.ok (.ok a), w')) :
    x.run.run w = (.ok (.ok a), w') := by
  rw [Engine.run_tryCatch] at ran
  rcases h : x.run.run w with ⟨r, w₁⟩
  rcases r with halt | e | a' <;> rw [h] at ran
  · cases ran
  · exact (abandon_ok ran).elim
  · exact ran

/-- A loop that ended with a result keeps an invariant of the items done so far and the machine:
it holds before the loop, and each item, run from a state and machine that satisfy it, goes on
with a state and machine that satisfy it for one item more. -/
theorem forIn_ok {xs : List β} {init : σ} {body : β → σ → Engine (ForInStep σ)}
    (inv : List β → σ → World → Prop) (start : inv [] init w)
    (step : ∀ done x rest s w₁ r w₂, xs = done ++ x :: rest → inv done s w₁ →
      (body x s).run.run w₁ = (.ok (.ok r), w₂) → ∃ s', r = .yield s' ∧ inv (done ++ [x]) s' w₂)
    {s' : σ} (ran : (forIn xs init body).run.run w = (.ok (.ok s'), w')) : inv xs s' w' := by
  -- the loop over what is left, after the items `done`, from any state and machine they left
  suffices left : ∀ rest done s w₁, xs = done ++ rest → inv done s w₁ →
      (forIn rest s body).run.run w₁ = (.ok (.ok s'), w') → inv xs s' w' from
    left xs [] init w rfl start ran
  intro rest
  induction rest with
  | nil =>
    intro done s w₁ split kept ran
    obtain ⟨rfl, rfl⟩ := pure_ok ran
    simpa [split] using kept
  | cons x rest ih =>
    intro done s w₁ split kept ran
    rw [List.forIn_cons] at ran
    obtain ⟨r, w₂, stepped, ran⟩ := bind_ok ran
    obtain ⟨s₂, rfl, kept₂⟩ := step done x rest s w₁ r w₂ split kept stepped
    exact ih (done ++ [x]) s₂ w₂ (by simp [split]) kept₂ ran

end Engine

/-! ### The steps of a stage's setup -/

theorem openTarget_ok {ctx : Context} {target : FileTarget} {w w' : World} {d : Nat}
    (ran : (openTarget ctx target).run.run w = (.ok (.ok d), w')) :
    d = w.table.size ∧ ∃ desc, w'.table = w.table.push desc ∧ ∀ feed, desc.backing ≠ .pipe feed := by
  unfold openTarget at ran
  split at ran
  · -- the scratch file that stands for the null device
    cases Engine.lift_ok ran
    exact ⟨rfl, _, rfl, fun _ => by simp⟩
  · obtain ⟨opened, w₁, made, ran⟩ := Engine.bind_ok ran
    rcases opened with e | d'
    · exact (Engine.throw_ok ran).elim
    · obtain ⟨rfl, rfl⟩ := Engine.pure_ok ran
      exact Sys.openPath_ok (Engine.lift_ok made)

/-- Opening a list of files adds one description per file, none of them a pipe, after those the
table had. -/
theorem mapM_openTarget_ok {ctx : Context} {w w' : World} :
    ∀ {targets : List FileTarget} {files : List Nat},
      (targets.mapM (openTarget ctx)).run.run w = (.ok (.ok files), w') →
      files.length = targets.length ∧ w.Extends w' ∧
        ∀ d ∈ files, w.table.size ≤ d ∧ d < w'.table.size ∧ ¬ w'.IsPipe d
  | [], files, ran => by
    obtain ⟨rfl, rfl⟩ := Engine.pure_ok ran
    exact ⟨rfl, .refl _, by simp⟩
  | target :: targets, files, ran => by
    rw [List.mapM_cons] at ran
    obtain ⟨d, w₁, opened, ran⟩ := Engine.bind_ok ran
    obtain ⟨rest, w₂, more, ran⟩ := Engine.bind_ok ran
    obtain ⟨rfl, rfl⟩ := Engine.pure_ok ran
    obtain ⟨rfl, desc, pushed, notPipe⟩ := openTarget_ok opened
    obtain ⟨length, grows, later⟩ := mapM_openTarget_ok more
    have first : w.Extends w₁ := by rw [World.Extends, pushed]; simp
    have size₁ : w₁.table.size = w.table.size + 1 := by simp [pushed]
    refine ⟨by simp [length], first.trans grows, ?_⟩
    rintro d (_ | ⟨_, mem⟩)
    · -- the first file's description stays what opening made
      refine ⟨le_rfl, by have := grows.size_le; omega, ?_⟩
      rw [grows.isPipe_iff (by omega)]
      rintro ⟨desc', feed, found, backed⟩
      simp [pushed] at found
      exact notPipe feed (found ▸ backed)
    · obtain ⟨low, high, notPipe'⟩ := later d mem
      exact ⟨by omega, high, notPipe'⟩

theorem makeTempFile_keepsTable : Sys.KeepsTable makeTempFile :=
  Sys.KeepsTable.bind .tempName fun _ => .bind .tree fun _ =>
    .bind (.setTree _) fun _ => .pure' _

theorem substituteNullArgs_keepsTable (ctx : Context) (args : List String) :
    Sys.KeepsTable (substituteNullArgs ctx args) := by
  unfold substituteNullArgs
  refine Sys.KeepsTable.bind (Sys.KeepsTable.forIn' fun arg s => ?_) fun _ => .pure' _
  split
  · exact .bind makeTempFile_keepsTable fun _ => .pure' _
  · exact .pure' _

theorem workingPlace_keepsTable (ctx : Context) : Sys.KeepsTable (workingPlace ctx) := by
  unfold workingPlace
  refine Sys.KeepsTable.bind .tree fun t => ?_
  split <;> exact .pure' _

/-! ### Wiring a stage's streams -/

/-- The descriptions a stage's output and errors are read from once it is wired: the pipe handed
to the next stage, then those kept for the stage's record. -/
def Wiring.readers (wr : Wiring) : List Nat :=
  wr.handOn.toList ++ wr.keptOutput ++ wr.keptErrors

/-- Where a stream of a stage ends up: in the description of the file its slot names, or, when
the slot leaves it to the wiring, in a description that someone reads. -/
def Lands (files readers : List Nat) : Slot → Nat → Prop
  | .file i, d => d = files.getD i 0
  | .default _, d => d ∈ readers

/-- A stream that lands somewhere went to one of the files, or to a reader when its slot names no
file. -/
theorem Lands.cases {files readers : List Nat} {slot : Slot} {d : Nat}
    (lands : Lands files readers slot d) (named : ∀ j, slot = .file j → j < files.length) :
    d ∈ files ∨ (d ∈ readers ∧ ∀ j, slot ≠ .file j) := by
  cases slot with
  | file j =>
    left
    rw [show d = files.getD j 0 from lands, List.getD_eq_getElem _ _ (named j rfl)]
    exact List.getElem_mem _
  | default st => exact .inr ⟨lands, fun _ => Slot.noConfusion⟩

theorem Lands.reader {files readers : List Nat} {slot : Slot} {d : Nat}
    (lands : Lands files readers slot d) (unnamed : ∀ j, slot ≠ .file j) : d ∈ readers := by
  cases slot with
  | file j => exact absurd rfl (unnamed j)
  | default st => exact lands

/-- What wiring a stage's streams from the machine `w` did, ending with `wr` in `w'`: it added
descriptions only, each with exactly one reader, which is the output or the errors; each stream
went to its file or to one of them; only the next stage's reading earns a pipe handed on; and a
stage that is not the last writes to no pipe but the one it hands on. -/
structure Wired (plan : StreamPlan) (files : List Nat) (last nextReads : Bool) (w : World)
    (wr : Wiring) (w' : World) : Prop where
  grows : w.Extends w'
  fresh : ∀ d ∈ wr.readers, w.table.size ≤ d ∧ d < w'.table.size
  nodup : wr.readers.Nodup
  ends : ∀ d ∈ wr.readers, d = wr.output ∨ d = wr.errors
  output : Lands files wr.readers plan.output wr.output
  errors : Lands files wr.readers plan.error wr.errors
  handsOn : ∀ d, wr.handOn = some d → nextReads = true
  live : last = false → ∀ d ∈ wr.readers, w'.IsPipe d → wr.handOn = some d

theorem wireOutputs_wired {plan : StreamPlan} {files : List Nat} {last nextReads : Bool}
    {w w' : World} {wr : Wiring} (exclusive : last = true → nextReads = false)
    (ran : (wireOutputs plan files last nextReads).run w = (.ok wr, w')) :
    Wired plan files last nextReads w wr w' := by
  unfold wireOutputs wireOutputs.wireErrors at ran
  dsimp only at ran
  -- each way through the wiring makes at most two descriptions and returns a record of them
  repeat' split at ran
  all_goals
    simp only [Sys.run_bind, Sys.newPipe_run, Sys.newScratch_run, Sys.pure_run] at ran
    injection ran with result world
    injection result with result
    subst result world
  all_goals
    constructor <;> simp_all [Wiring.readers, Lands, World.Extends, World.IsPipe, Array.getElem?_push,
      StreamPlan.errorFollowsOutput]

end Pipework.Run
