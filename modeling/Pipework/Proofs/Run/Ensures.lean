import Mathlib
import Pipework.Run.Pipeline

/-! What an action of the engine can end with, on every machine. -/

namespace Pipework.Run

open Pipework.Host

variable {α β γ σ : Type}

/-- One bind of the engine, run on a machine: the first action runs, and the second runs on
the machine it leaves, unless the first stopped with an error or a halt. -/
theorem Engine.run_bind (x : Engine α) (f : α → Engine β) (w : World) :
    (x >>= f).run.run w = match x.run.run w with
      | (.ok (.ok a), w') => (f a).run.run w'
      | (.ok (.error e), w') => (.ok (.error e), w')
      | (.error h, w') => (.error h, w') := by
  simp only [ExceptT.run_bind]
  rcases h : x.run.run w with ⟨r, w'⟩
  rcases r with halt | e | a <;> simp [bind, pure, StateT.bind, StateT.pure, ExceptT.pure,
    ExceptT.mk, h]
  rfl

@[simp] theorem Engine.run_throw (e : ExecError) (w : World) :
    (throw e : Engine α).run.run w = (.ok (.error e), w) := rfl

/-- One bind of the machine, run: the second action runs on the machine the first leaves,
unless the first halted. -/
theorem Sys.run_bind (x : Sys α) (f : α → Sys β) (w : World) :
    (x >>= f).run w = match x.run w with
      | (.ok a, w') => (f a).run w'
      | (.error h, w') => (.error h, w') := by
  simp only [ExceptT.run_bind]
  rcases h : x.run w with ⟨r, w'⟩
  rcases r with halt | a <;> simp [bind, pure, StateT.bind, StateT.pure, h]

/-- An action of the machine, run as an action of the engine, never stops with an error of
the engine. -/
theorem Engine.run_lift (x : Sys α) (w : World) :
    (monadLift x : Engine α).run.run w = match x.run w with
      | (.ok a, w') => (.ok (.ok a), w')
      | (.error h, w') => (.error h, w') := by
  show (Except.ok <$> x).run w = _
  simp only [ExceptT.run_map]
  rcases h : x.run w with ⟨r, w'⟩
  rcases r with halt | a <;> simp [Functor.map, StateT.map, h] <;> rfl

/-- A handled action of the engine, run: an error of the engine goes to the handler, on the
machine the action left; a result or a halt stays. -/
theorem Engine.run_tryCatch (x : Engine α) (handler : ExecError → Engine α) (w : World) :
    (tryCatch x handler : Engine α).run.run w = match x.run.run w with
      | (.ok (.error e), w') => (handler e).run.run w'
      | r => r := by
  rw [ExceptT.run_tryCatch, Sys.run_bind]
  rcases x.run.run w with ⟨r, w'⟩
  rcases r with halt | e | a <;> rfl

/-- What every run of `x` ends with: a result that satisfies `ok`, or an error of the engine
that satisfies `err`. -/
structure Engine.Ensures (x : Engine α) (ok : α → Prop) (err : ExecError → Prop) : Prop where
  result : ∀ {w a}, (x.run.run w).1 = .ok (.ok a) → ok a
  error : ∀ {w e}, (x.run.run w).1 = .ok (.error e) → err e

namespace Engine.Ensures

variable {ok mid : α → Prop} {err : ExecError → Prop}

theorem pure {a : α} (holds : ok a) : (pure a : Engine α).Ensures ok err where
  result ran := by cases ran; exact holds
  error ran := by cases ran

theorem throw {e : ExecError} (holds : err e) : (throw e : Engine α).Ensures ok err where
  result ran := by cases ran
  error ran := by cases ran; exact holds

theorem mono {x : Engine α} {ok' : α → Prop} {err' : ExecError → Prop} (h : x.Ensures ok err)
    (weaker : ∀ a, ok a → ok' a) (weakerError : ∀ e, err e → err' e) : x.Ensures ok' err' where
  result ran := weaker _ (h.result ran)
  error ran := weakerError _ (h.error ran)

theorem bind {x : Engine α} {f : α → Engine β} {ok : β → Prop} (first : x.Ensures mid err)
    (next : ∀ a, mid a → (f a).Ensures ok err) : (x >>= f).Ensures ok err where
  result {w b} ran := by
    rw [Engine.run_bind] at ran
    rcases h : x.run.run w with ⟨r, w₁⟩
    rcases r with halt | e | a <;> rw [h] at ran
    · cases ran
    · cases ran
    · exact (next a (first.result (by rw [h]))).result ran
  error {w e} ran := by
    rw [Engine.run_bind] at ran
    rcases h : x.run.run w with ⟨r, w₁⟩
    rcases r with halt | e' | a <;> rw [h] at ran
    · cases ran
    · cases ran
      exact first.error (by rw [h])
    · exact (next a (first.result (by rw [h]))).error ran

theorem lift (x : Sys α) (any : ∀ a, ok a) : (monadLift x : Engine α).Ensures ok err where
  result {w a} ran := any a
  error {w e} ran := by
    rw [Engine.run_lift] at ran
    rcases h : x.run w with ⟨r, w₁⟩
    rcases r with halt | a <;> rw [h] at ran <;> cases ran

theorem bind_lift {x : Sys α} {f : α → Engine β} {ok : β → Prop}
    (next : ∀ a, (f a).Ensures ok err) : (monadLift x >>= f).Ensures ok err :=
  bind (lift x fun _ => trivial : (monadLift x : Engine α).Ensures (fun _ => True) err)
    fun a _ => next a

theorem bind_throw {e : ExecError} {f : α → Engine β} {ok : β → Prop} (holds : err e) :
    (MonadExcept.throw e >>= f).Ensures ok err :=
  bind (throw holds : (MonadExcept.throw e : Engine α).Ensures (fun _ => False) err)
    fun _ impossible => impossible.elim

/-- A handled action ensures what the action ensures of its results, and what the handler
ensures from each error the action ensures. -/
theorem tryCatch {x : Engine α} {handler : ExecError → Engine α} {err' : ExecError → Prop}
    (first : x.Ensures ok err) (handled : ∀ e, err e → (handler e).Ensures ok err') :
    (tryCatch x handler).Ensures ok err' where
  result {w a} ran := by
    rw [Engine.run_tryCatch] at ran
    rcases h : x.run.run w with ⟨r, w₁⟩
    rcases r with halt | e | a' <;> rw [h] at ran
    · cases ran
    · exact (handled e (first.error (by rw [h]))).result ran
    · exact first.result (by rw [h]; exact ran)
  error {w e} ran := by
    rw [Engine.run_tryCatch] at ran
    rcases h : x.run.run w with ⟨r, w₁⟩
    rcases r with halt | e' | a <;> rw [h] at ran
    · cases ran
    · exact (handled e' (first.error (by rw [h]))).error ran
    · cases ran

theorem abandon {temps : List String} {e : ExecError} (holds : err e) :
    (abandon temps e : Engine α).Ensures ok err :=
  bind_lift fun _ => throw holds

theorem bind_abandon {temps : List String} {e : ExecError} {f : α → Engine β} {ok : β → Prop}
    (holds : err e) : (Run.abandon temps e >>= f).Ensures ok err :=
  bind (abandon holds : (Run.abandon temps e : Engine α).Ensures (fun _ => False) err)
    fun _ impossible => impossible.elim

/-- Two continuations that agree on every result an action ensures make the same bind: what the
action never gives cannot tell them apart. -/
theorem bind_congr {x : Engine α} {f g : α → Engine β} (first : x.Ensures mid err)
    (agree : ∀ a, mid a → f a = g a) : x >>= f = x >>= g := by
  refine ExceptT.ext (ExceptT.ext (StateT.ext fun w => ?_))
  change (x >>= f).run.run w = (x >>= g).run.run w
  rw [Engine.run_bind, Engine.run_bind]
  rcases ran : x.run.run w with ⟨r, w₁⟩
  rcases r with halt | e | a
  · rfl
  · rfl
  · dsimp only
    rw [agree a (first.result (by rw [ran]))]

/-- A loop over a list whose body always goes on keeps an invariant of the items done so far:
it holds before the loop, and each item, taken in its place, keeps it. -/
theorem forIn {xs : List β} {init : σ} {body : β → σ → Engine (ForInStep σ)}
    (inv : List β → σ → Prop) (start : inv [] init)
    (step : ∀ done x rest s, xs = done ++ x :: rest → inv done s →
      (body x s).Ensures (fun r => ∃ s', r = .yield s' ∧ inv (done ++ [x]) s') err) :
    (forIn xs init body).Ensures (inv xs) err := by
  -- the loop over what is left, after the items `done`, from any state they left
  suffices left : ∀ rest done s, xs = done ++ rest → inv done s →
      (ForIn.forIn rest s body).Ensures (inv xs) err from
    left xs [] init rfl start
  intro rest
  induction rest with
  | nil =>
    intro done s split kept
    simp only [List.append_nil] at split
    subst split
    exact Ensures.pure kept
  | cons x rest ih =>
    intro done s split kept
    rw [List.forIn_cons]
    refine Ensures.bind (step done x rest s split kept) ?_
    rintro r ⟨s', rfl, kept'⟩
    exact ih (done ++ [x]) s' (by simp [split]) kept'

theorem mapM {xs : List β} {f : β → Engine γ} {rel : β → γ → Prop}
    (each : ∀ x ∈ xs, (f x).Ensures (rel x) err) : (xs.mapM f).Ensures (List.Forall₂ rel xs) err := by
  induction xs with
  | nil => exact Ensures.pure .nil
  | cons x xs ih =>
    rw [List.mapM_cons]
    refine Ensures.bind (each x (by simp)) fun y related => ?_
    refine Ensures.bind (ih fun x' mem => each x' (by simp [mem])) fun ys rest => ?_
    exact Ensures.pure (.cons related rest)

theorem mapM_length {xs : List β} {f : β → Engine γ} (each : ∀ x ∈ xs, (f x).Ensures (fun _ => True) err) :
    (xs.mapM f).Ensures (fun ys => ys.length = xs.length) err :=
  (mapM each).mono (fun _ related => related.length_eq.symm) fun _ allowed => allowed

end Engine.Ensures

end Pipework.Run
