import Mathlib
import Pipework.Proofs.Run.Allocation

/-! Runs that end. -/

namespace Pipework.Run

open Pipework.Host Pipework.Machine

variable {α β γ σ : Type}

/-- Every run of the machine's action `x` from a machine that satisfies `pre` ends with a result,
and the result and the machine it leaves satisfy `post`. -/
def Sys.Triple (pre : World → Prop) (x : Sys α) (post : α → World → Prop) : Prop :=
  ∀ w, pre w → ∃ a w', x.run w = (.ok a, w') ∧ post a w'

/-- A handled action of the machine, run: a halt goes to the handler, on the machine the action
left. -/
theorem Sys.run_tryCatch (x : Sys α) (handler : Halt → Sys α) (w : World) :
    (tryCatch x handler : Sys α).run w = match x.run w with
      | (.error h, w') => (handler h).run w'
      | r => r := by
  rw [ExceptT.run_tryCatch]
  show (StateT.run (ExceptT.run x >>= _) w) = _
  rw [StateT.run_bind]
  rcases ran : x.run w with ⟨r, w'⟩
  rw [show StateT.run (ExceptT.run x) w = (r, w') from ran]
  rcases r with halt | a <;> rfl

namespace Sys.Triple

variable {pre : World → Prop} {post : α → World → Prop}

theorem pure' {a : α} (holds : ∀ w, pre w → post a w) : Sys.Triple pre (pure a) post :=
  fun w kept => ⟨a, w, rfl, holds w kept⟩

theorem bind {x : Sys α} {f : α → Sys β} {mid : α → World → Prop} {post : β → World → Prop}
    (first : Sys.Triple pre x mid) (next : ∀ a, Sys.Triple (mid a) (f a) post) :
    Sys.Triple pre (x >>= f) post := by
  intro w kept
  obtain ⟨a, w₁, ran, kept₁⟩ := first w kept
  obtain ⟨b, w₂, ran', kept₂⟩ := next a w₁ kept₁
  exact ⟨b, w₂, by rw [Sys.run_bind, ran]; exact ran', kept₂⟩

theorem mono {x : Sys α} {pre' : World → Prop} {post' : α → World → Prop}
    (holds : Sys.Triple pre x post) (stronger : ∀ w, pre' w → pre w)
    (weaker : ∀ a w, post a w → post' a w) : Sys.Triple pre' x post' := by
  intro w kept
  obtain ⟨a, w', ran, kept'⟩ := holds w (stronger w kept)
  exact ⟨a, w', ran, weaker a w' kept'⟩

/-- A loop over a list whose body always goes on keeps an invariant of the items done so far,
the state and the machine. -/
theorem forIn {xs : List β} {init : σ} {body : β → σ → Sys (ForInStep σ)}
    (inv : List β → σ → World → Prop)
    (step : ∀ done x rest s, xs = done ++ x :: rest →
      Sys.Triple (inv done s) (body x s) fun r w => ∃ s', r = .yield s' ∧ inv (done ++ [x]) s' w) :
    Sys.Triple (inv [] init) (forIn xs init body) (inv xs) := by
  -- the loop over what is left, after the items `done`, from any state they left
  suffices left : ∀ rest done s, xs = done ++ rest →
      Sys.Triple (inv done s) (ForIn.forIn rest s body) (inv xs) from
    left xs [] init rfl
  intro rest
  induction rest with
  | nil =>
    intro done s split
    simp only [List.append_nil] at split
    subst split
    exact pure' fun _ kept => kept
  | cons x rest ih =>
    intro done s split
    rw [List.forIn_cons]
    refine bind (step done x rest s split) fun r => ?_
    intro w ⟨s', stepped, kept⟩
    subst stepped
    exact ih (done ++ [x]) s' (by simp [split]) w kept

theorem tryCatch {x : Sys α} {handler : Halt → Sys α}
    (handled : ∀ h, Sys.Triple (fun _ => True) (handler h) fun _ _ => True) :
    Sys.Triple (fun _ => True) (tryCatch x handler) fun _ _ => True := by
  intro w _
  rw [Sys.run_tryCatch]
  rcases x.run w with ⟨r, w₁⟩
  rcases r with halt | a
  · exact handled halt w₁ trivial
  · exact ⟨a, w₁, rfl, trivial⟩

end Sys.Triple

/-- Every run of the engine's action `x` from a machine that satisfies `pre` ends, with a result
that satisfies `ok` or with an error of the engine that satisfies `err`, on the machine it
leaves. -/
def Engine.Triple (pre : World → Prop) (x : Engine α) (ok : α → World → Prop)
    (err : ExecError → World → Prop) : Prop :=
  Sys.Triple pre x.run fun r w => match r with
    | .ok a => ok a w
    | .error e => err e w

namespace Engine.Triple

variable {pre : World → Prop} {ok : α → World → Prop} {err : ExecError → World → Prop}

theorem pure' {a : α} (holds : ∀ w, pre w → ok a w) : Engine.Triple pre (pure a) ok err :=
  fun w kept => ⟨.ok a, w, rfl, holds w kept⟩

theorem throw' {e : ExecError} (holds : ∀ w, pre w → err e w) :
    Engine.Triple pre (throw e) ok err :=
  fun w kept => ⟨.error e, w, rfl, holds w kept⟩

/-- A bind ends as its second action does from every result of the first; an error of the first
stops it there. -/
theorem bind {x : Engine α} {f : α → Engine β} {mid : α → World → Prop} {ok : β → World → Prop}
    (first : Engine.Triple pre x mid err) (next : ∀ a, Engine.Triple (mid a) (f a) ok err) :
    Engine.Triple pre (x >>= f) ok err := by
  intro w kept
  obtain ⟨r, w₁, ran, kept₁⟩ := first w kept
  rcases r with e | a
  · exact ⟨.error e, w₁, by rw [Engine.run_bind, ran], kept₁⟩
  · obtain ⟨r', w₂, ran', kept₂⟩ := next a w₁ kept₁
    exact ⟨r', w₂, by rw [Engine.run_bind, ran]; exact ran', kept₂⟩

theorem lift {x : Sys α} (step : Sys.Triple pre x ok) :
    Engine.Triple pre (monadLift x) ok err := by
  intro w kept
  obtain ⟨a, w', ran, kept'⟩ := step w kept
  exact ⟨.ok a, w', by rw [Engine.run_lift, ran], kept'⟩

/-- A handled action ends with the action's result, or as its handler does from the action's
error. -/
theorem tryCatch {x : Engine α} {handler : ExecError → Engine α} {mid : ExecError → World → Prop}
    (first : Engine.Triple pre x ok mid) (handled : ∀ e, Engine.Triple (mid e) (handler e) ok err) :
    Engine.Triple pre (tryCatch x handler) ok err := by
  intro w kept
  obtain ⟨r, w₁, ran, kept₁⟩ := first w kept
  rcases r with e | a
  · obtain ⟨r', w₂, ran', kept₂⟩ := handled e w₁ kept₁
    exact ⟨r', w₂, by rw [Engine.run_tryCatch, ran]; exact ran', kept₂⟩
  · exact ⟨.ok a, w₁, by rw [Engine.run_tryCatch, ran], kept₁⟩

theorem mono {x : Engine α} {pre' : World → Prop} {ok' : α → World → Prop}
    {err' : ExecError → World → Prop} (holds : Engine.Triple pre x ok err)
    (stronger : ∀ w, pre' w → pre w) (weaker : ∀ a w, ok a w → ok' a w)
    (weakerError : ∀ e w, err e w → err' e w) : Engine.Triple pre' x ok' err' := by
  refine Sys.Triple.mono holds stronger fun r w kept => ?_
  rcases r with e | a
  · exact weakerError e w kept
  · exact weaker a w kept

/-- A loop over a list whose body always goes on keeps an invariant of the items done so far,
the state and the machine, unless it stops with an error. -/
theorem forIn {xs : List β} {init : σ} {body : β → σ → Engine (ForInStep σ)}
    (inv : List β → σ → World → Prop)
    (step : ∀ done x rest s, xs = done ++ x :: rest →
      Engine.Triple (inv done s) (body x s)
        (fun r w => ∃ s', r = .yield s' ∧ inv (done ++ [x]) s' w) err) :
    Engine.Triple (inv [] init) (forIn xs init body) (inv xs) err := by
  suffices left : ∀ rest done s, xs = done ++ rest →
      Engine.Triple (inv done s) (ForIn.forIn rest s body) (inv xs) err from
    left xs [] init rfl
  intro rest
  induction rest with
  | nil =>
    intro done s split
    simp only [List.append_nil] at split
    subst split
    exact pure' fun _ kept => kept
  | cons x rest ih =>
    intro done s split
    rw [List.forIn_cons]
    refine bind (step done x rest s split) fun r => ?_
    intro w ⟨s', stepped, kept⟩
    subst stepped
    exact ih (done ++ [x]) s' (by simp [split]) w kept

theorem mapM {xs : List β} {f : β → Engine γ} {inv : World → Prop}
    (each : ∀ x ∈ xs, Engine.Triple inv (f x) (fun _ => inv) err) :
    Engine.Triple inv (xs.mapM f) (fun _ => inv) err := by
  induction xs with
  | nil => exact pure' fun _ kept => kept
  | cons x xs ih =>
    rw [List.mapM_cons]
    refine bind (each x (by simp)) fun _ => ?_
    refine bind (ih fun x' mem => each x' (by simp [mem])) fun _ => ?_
    exact pure' fun _ kept => kept

theorem bind_pure {a : α} {f : α → Engine β} {ok : β → World → Prop}
    (next : Engine.Triple pre (f a) ok err) : Engine.Triple pre (pure a >>= f) ok err := by
  rw [pure_bind]
  exact next

theorem of_fact {x : Engine α} {P : Prop} (each : P → Engine.Triple (fun _ => True) x ok err) :
    Engine.Triple (fun _ => P) x ok err :=
  fun w holds => each holds w trivial

theorem of_false {x : Engine α} : Engine.Triple (fun _ => False) x ok err :=
  fun _ impossible => impossible.elim

theorem bind_throw {e : ExecError} {f : α → Engine β} {ok : β → World → Prop}
    (holds : ∀ w, pre w → err e w) : Engine.Triple pre (throw e >>= f) ok err :=
  bind (throw' holds : Engine.Triple pre (throw e) (fun _ _ => False) err) fun _ => of_false

end Engine.Triple

/-! ### Actions that never halt -/

/-- An action of the machine that ends with a result on every machine. -/
abbrev Sys.Returns (x : Sys α) : Prop :=
  Sys.Triple (fun _ => True) x fun _ _ => True

/-- An action of the engine that ends, with a result or an error of the engine, on every
machine. -/
abbrev Engine.Returns (x : Engine α) : Prop :=
  Engine.Triple (fun _ => True) x (fun _ _ => True) fun _ _ => True

theorem Sys.Returns.bind {x : Sys α} {f : α → Sys β} (first : Sys.Returns x)
    (next : ∀ a, Sys.Returns (f a)) : Sys.Returns (x >>= f) :=
  Sys.Triple.bind first next

theorem Engine.Returns.bind {x : Engine α} {f : α → Engine β} (first : Engine.Returns x)
    (next : ∀ a, Engine.Returns (f a)) : Engine.Returns (x >>= f) :=
  Engine.Triple.bind first next

theorem tree_returns : Sys.Returns Sys.tree := fun _ _ => ⟨_, _, rfl, trivial⟩

theorem setTree_returns (t : FileTree) : Sys.Returns (Sys.setTree t) :=
  fun _ _ => ⟨_, _, rfl, trivial⟩

theorem newPipe_returns : Sys.Returns Sys.newPipe := fun _ _ => ⟨_, _, rfl, trivial⟩

theorem newPid_returns : Sys.Returns Sys.newPid := fun _ _ => ⟨_, _, rfl, trivial⟩

theorem desc?_returns (i : Nat) : Sys.Returns (Sys.desc? i) := fun _ _ => ⟨_, _, rfl, trivial⟩

theorem setDesc_returns (i : Nat) (d : Description) : Sys.Returns (Sys.setDesc i d) :=
  fun _ _ => ⟨_, _, rfl, trivial⟩

theorem workingPlace_returns (ctx : Context) : Sys.Returns (workingPlace ctx) := by
  unfold workingPlace
  refine Sys.Returns.bind tree_returns fun t => ?_
  split <;> exact Sys.Triple.pure' fun _ _ => trivial

theorem runToEnd_returns (p : Proc) (body : Sys Nat) : Sys.Returns (Sys.runToEnd p body) := by
  unfold Sys.runToEnd
  refine Sys.Triple.tryCatch fun halt => ?_
  cases halt with
  | exit code => exact Sys.Triple.pure' fun _ _ => trivial
  | signal number => exact Sys.Triple.pure' fun _ _ => trivial
  | endless fd chunk =>
    dsimp only
    repeat' (first
      | exact Sys.Triple.pure' fun _ _ => trivial
      | refine Sys.Returns.bind (desc?_returns _) fun _ => ?_
      | refine Sys.Returns.bind (setDesc_returns _ _) fun _ => ?_
      | split)

theorem launch_returns (fuel : Nat) (path : String) (p : Proc) : Sys.Returns (launch fuel path p) := by
  cases fuel with
  | zero => exact Sys.Triple.pure' fun _ _ => trivial
  | succ fuel =>
    unfold launch
    refine Sys.Returns.bind tree_returns fun t => ?_
    repeat' (first
      | exact Sys.Triple.pure' fun _ _ => trivial
      | refine Sys.Returns.bind (runToEnd_returns _ _) fun _ => ?_
      | split)

theorem collected_returns (descs : List Nat) : Sys.Returns (collected descs) := by
  unfold collected
  refine Sys.Triple.bind (Sys.Triple.forIn (fun _ _ _ => True) fun _ _ _ _ _ => ?_) fun _ =>
    Sys.Triple.pure' fun _ _ => trivial
  refine Sys.Triple.bind (desc?_returns _) fun found => ?_
  split <;> exact Sys.Triple.pure' fun _ _ => ⟨_, rfl, trivial⟩

theorem overflowing_returns (stages : List Stage) : Sys.Returns (overflowing stages) := by
  unfold overflowing
  induction stages with
  | nil => exact Sys.Triple.pure' fun _ _ => trivial
  | cons stage stages ih =>
    rw [List.filterMapM_cons]
    refine Sys.Returns.bind ?_ fun found => ?_
    · repeat' (first
        | exact Sys.Triple.pure' fun _ _ => trivial
        | refine Sys.Returns.bind (desc?_returns _) fun _ => ?_
        | split)
    · split
      · exact ih
      · exact Sys.Returns.bind ih fun _ => Sys.Triple.pure' fun _ _ => trivial

theorem runStages_returns (stages : List Stage) : Engine.Returns (runStages stages) := by
  unfold runStages
  refine Engine.Triple.mapM fun stage _ => ?_
  refine Engine.Returns.bind (Engine.Triple.lift (launch_returns _ _ _)) fun launched => ?_
  dsimp only
  split
  · refine Engine.Triple.bind_pure ?_
    refine Engine.Returns.bind (Engine.Triple.lift (collected_returns _)) fun _ => ?_
    refine Engine.Returns.bind (Engine.Triple.lift (collected_returns _)) fun _ => ?_
    exact Engine.Triple.pure' fun _ _ => trivial
  · exact Engine.Triple.bind_throw fun _ _ => trivial

theorem runWithin_returns (stages : List Stage) (rounds : Nat) :
    Engine.Returns (runWithin stages rounds) := by
  induction rounds with
  | zero => exact runStages_returns stages
  | succ rounds ih =>
    unfold runWithin
    refine Engine.Returns.bind (fun w _ => ⟨.ok w, w, rfl, trivial⟩) fun before => ?_
    refine Engine.Returns.bind (runStages_returns stages) fun results => ?_
    refine Engine.Returns.bind (Engine.Triple.lift (overflowing_returns stages)) fun full => ?_
    split
    · exact Engine.Triple.pure' fun _ _ => trivial
    · exact Engine.Returns.bind (fun _ _ => ⟨.ok (), _, rfl, trivial⟩) fun _ => ih

theorem wait_returns (d : Drain) (i : Nat) : Engine.Returns (d.wait i) := by
  unfold Drain.wait
  split
  · split
    · exact Engine.Triple.throw' fun _ _ => trivial
    · exact Engine.Triple.pure' fun _ _ => trivial
  · exact Engine.Triple.pure' fun _ _ => trivial

theorem drainStages_returns (stages : List Stage) (results : List (ByteArray × ByteArray × Int)) :
    Engine.Returns (drainStages stages results) := by
  have folded : ∀ (order : List Nat) (d : Drain), Engine.Returns (order.foldlM Drain.wait d) := by
    intro order
    induction order with
    | nil => exact fun _ => Engine.Triple.pure' fun _ _ => trivial
    | cons i order ih =>
      intro d
      rw [List.foldlM_cons]
      exact Engine.Returns.bind (wait_returns d i) ih
  unfold drainStages
  exact Engine.Returns.bind (folded _ _) fun _ => Engine.Triple.pure' fun _ _ => trivial

/-- Running a whole script never halts the engine: it ends with an outcome or an error of the
engine, whatever the script's process does. -/
theorem runWholeScript_returns (ctx : Context) (argv : List String) :
    Engine.Returns (runWholeScript ctx argv) := by
  unfold runWholeScript
  -- each step is matched by its head only, so that no step is unfolded to fit another
  repeat' (first
    | with_reducible exact Engine.Triple.pure' fun _ _ => trivial
    | with_reducible exact Engine.Triple.throw' fun _ _ => trivial
    | with_reducible exact Engine.Triple.bind_throw fun _ _ => trivial
    | with_reducible refine Engine.Returns.bind
                          (Engine.Triple.lift (workingPlace_returns ctx)) fun _ => ?_
    | with_reducible refine Engine.Returns.bind (Engine.Triple.lift tree_returns) fun _ => ?_
    | with_reducible refine Engine.Returns.bind (Engine.Triple.lift newPipe_returns) fun _ => ?_
    | with_reducible refine Engine.Returns.bind (Engine.Triple.lift newPid_returns) fun _ => ?_
    | with_reducible refine Engine.Returns.bind
                          (Engine.Triple.lift (launch_returns _ _ _)) fun _ => ?_
    | with_reducible refine Engine.Returns.bind
                          (Engine.Triple.lift (collected_returns _)) fun _ => ?_
    | with_reducible refine Engine.Returns.bind ?_ fun _ => ?_
    | dsimp only
    | split)

/-- Writing through a description that is no pipe never halts: only a full pipe kills its
writer. -/
theorem writeDesc_returns {i : Nat} {desc : Description}
    (notPipe : ∀ feed, desc.backing ≠ .pipe feed) (bytes : ByteArray) :
    Sys.Triple (fun w => w.table[i]? = some desc) (Sys.writeDesc i bytes) fun _ _ => True := by
  unfold Sys.writeDesc
  refine Sys.Triple.bind (fun w found => ⟨_, w, rfl, found⟩ :
    Sys.Triple (fun w => w.table[i]? = some desc) (Sys.desc? i) fun looked _ => looked = some desc)
    fun looked => ?_
  rintro w rfl
  dsimp only
  split
  · exact ⟨_, w, rfl, trivial⟩
  · cases backed : desc.backing with
    | pipe feed => exact absurd backed (notPipe feed)
    | _ =>
      refine (?_ : Sys.Returns _) w trivial
      repeat' (first
        | exact Sys.Triple.pure' fun _ _ => trivial
        | refine Sys.Returns.bind tree_returns fun _ => ?_
        | refine Sys.Returns.bind (setTree_returns _) fun _ => ?_
        | refine Sys.Returns.bind (setDesc_returns _ _) fun _ => ?_
        | split)

end Pipework.Run
