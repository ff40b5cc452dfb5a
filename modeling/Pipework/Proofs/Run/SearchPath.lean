import Mathlib
import Pipework.Run.Pipeline

/-! The search path of the commands, and the order the environment is walked in. -/

namespace Pipework.Run

open Pipework.Host

section
variable {cwd : String} {host : HostProfile}

theorem pathVar_cons_of_names {name value : String} (names : namesSearchPath host name = true)
    (rest : List (String × String)) :
    (⟨cwd, (name, value) :: rest, host⟩ : Context).pathVar = some value := by
  simp [Context.pathVar, names]

theorem pathVar_eq_none_iff {env : List (String × String)} :
    (⟨cwd, env, host⟩ : Context).pathVar = none ↔ ∀ e ∈ env, namesSearchPath host e.1 = false := by
  simp [Context.pathVar]

theorem mem_of_pathVar_eq_some {env : List (String × String)} {value : String}
    (found : (⟨cwd, env, host⟩ : Context).pathVar = some value) :
    ∃ name, (name, value) ∈ env ∧ namesSearchPath host name = true := by
  obtain ⟨⟨name, v⟩, first, rfl⟩ := Option.map_eq_some_iff.1 found
  exact ⟨name, List.mem_of_find?_eq_some first, by simpa using List.find?_some first⟩

theorem namesSearchPath_of_not_windows (unix : host.isWindows = false) {name : String} :
    namesSearchPath host name = true ↔ name = "PATH" := by
  simp [namesSearchPath, unix]

theorem pathVar_of_not_windows (unix : host.isWindows = false) (env : List (String × String)) :
    (⟨cwd, env, host⟩ : Context).pathVar = env.lookup "PATH" := by
  induction env with
  | nil => rfl
  | cons entry rest ih =>
    obtain ⟨name, value⟩ := entry
    by_cases path : name = "PATH"
    · subst path
      simp [Context.pathVar, namesSearchPath, List.lookup]
    · have other : namesSearchPath host name = false :=
        Bool.eq_false_iff.2 fun names => path ((namesSearchPath_of_not_windows unix).1 names)
      have differ : ("PATH" == name) = false := by simp [Ne.symm path]
      rw [List.lookup_cons, differ, Context.pathVar, List.find?_cons_of_neg (by simpa using other)]
      exact ih

end

/-- Every walk of the environment gives the same search path exactly when the variables that name
it agree on its value. -/
theorem pathVar_same_walks_iff (ctx : Context) :
    (∀ walk : List (String × String), walk.Perm ctx.env →
        { ctx with env := walk }.pathVar = ctx.pathVar) ↔
      ∀ a ∈ ctx.env, ∀ b ∈ ctx.env, namesSearchPath ctx.host a.1 = true →
        namesSearchPath ctx.host b.1 = true → a.2 = b.2 := by
  obtain ⟨cwd, env, host⟩ := ctx
  constructor
  · -- a walk may meet any variable that names the search path first
    intro same a memA b memB namesA namesB
    have first : ∀ x ∈ env, namesSearchPath host x.1 = true →
        (⟨cwd, env, host⟩ : Context).pathVar = some x.2 := by
      intro x mem names
      rw [← same _ (List.perm_cons_erase mem).symm]
      exact pathVar_cons_of_names names _
    exact Option.some_inj.1 ((first a memA namesA).symm.trans (first b memB namesB))
  · intro agree walk perm
    dsimp only at agree ⊢
    cases found : (⟨cwd, env, host⟩ : Context).pathVar with
    | none =>
      rw [pathVar_eq_none_iff] at found ⊢
      exact fun e mem => found e (perm.subset mem)
    | some v =>
      obtain ⟨name, mem, names⟩ := mem_of_pathVar_eq_some found
      cases other : (⟨cwd, walk, host⟩ : Context).pathVar with
      | none =>
        rw [pathVar_eq_none_iff] at other
        simp [other _ (perm.symm.subset mem)] at names
      | some w =>
        obtain ⟨name', mem', names'⟩ := mem_of_pathVar_eq_some other
        exact congrArg some (agree _ (perm.subset mem') _ mem names' names)

/-- The search path is the same for every walk of the environment exactly when the variables
naming it agree; off Windows, with each variable once in the map, every walk gives `PATH`. -/
theorem search_path_walk_independence (ctx : Context) :
    ((∀ walk : List (String × String), walk.Perm ctx.env →
        { ctx with env := walk }.pathVar = ctx.pathVar) ↔
      ∀ a ∈ ctx.env, ∀ b ∈ ctx.env, namesSearchPath ctx.host a.1 = true →
        namesSearchPath ctx.host b.1 = true → a.2 = b.2) ∧
    (ctx.host.isWindows = false → (ctx.env.map Prod.fst).Nodup →
      ∀ walk : List (String × String), walk.Perm ctx.env →
        { ctx with env := walk }.pathVar = ctx.env.lookup "PATH") := by
  refine ⟨pathVar_same_walks_iff ctx, fun unix distinct walk perm => ?_⟩
  -- only `PATH` names the search path, and the map holds it once at most
  have once : ∀ a ∈ ctx.env, ∀ b ∈ ctx.env, namesSearchPath ctx.host a.1 = true →
      namesSearchPath ctx.host b.1 = true → a.2 = b.2 := by
    intro a memA b memB namesA namesB
    rw [namesSearchPath_of_not_windows unix] at namesA namesB
    rw [List.inj_on_of_nodup_map distinct memA memB (namesA.trans namesB.symm)]
  rw [(pathVar_same_walks_iff ctx).2 once walk perm]
  exact pathVar_of_not_windows unix ctx.env

/-- Off Windows, `Path` does not name the search path: walked either way, the map gives `PATH`. -/
theorem search_path_walk_independence_unix :
    ({} : HostProfile).isWindows = false ∧
      ([("PATH", "/usr/bin:/bin"), ("Path", "/nope")].map Prod.fst).Nodup ∧
      ([("Path", "/nope"), ("PATH", "/usr/bin:/bin")] : List (String × String)).Perm
        [("PATH", "/usr/bin:/bin"), ("Path", "/nope")] ∧
      (⟨"/", [("Path", "/nope"), ("PATH", "/usr/bin:/bin")], {}⟩ : Context).pathVar =
        [("PATH", "/usr/bin:/bin"), ("Path", "/nope")].lookup "PATH" :=
  have distinct : ([("PATH", "/usr/bin:/bin"), ("Path", "/nope")].map Prod.fst).Nodup := by decide
  have perm : ([("Path", "/nope"), ("PATH", "/usr/bin:/bin")] : List (String × String)).Perm
      [("PATH", "/usr/bin:/bin"), ("Path", "/nope")] := by decide
  ⟨rfl, distinct, perm,
    (search_path_walk_independence ⟨"/", [("PATH", "/usr/bin:/bin"), ("Path", "/nope")], {}⟩).2
      rfl distinct _ perm⟩

/-- On a Windows host, a map with `PATH` and `Path` gives the search path of whichever the walk
meets first. -/
theorem search_path_depends_on_walk :
    ([("Path", "/nope"), ("PATH", "/usr/bin:/bin")] : List (String × String)).Perm
        [("PATH", "/usr/bin:/bin"), ("Path", "/nope")] ∧
      (⟨"/", [("PATH", "/usr/bin:/bin"), ("Path", "/nope")], { isWindows := true }⟩ :
        Context).pathVar = some "/usr/bin:/bin" ∧
      (⟨"/", [("Path", "/nope"), ("PATH", "/usr/bin:/bin")], { isWindows := true }⟩ :
        Context).pathVar = some "/nope" := by
  decide +kernel

end Pipework.Run
