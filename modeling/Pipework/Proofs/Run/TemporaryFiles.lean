import Mathlib
import Pipework.Proofs.Run.Triples

/-! Temporary files do not outlive a run. -/

namespace Pipework.Host.FileTree

/-! ### Taking entries away -/

theorem get?_erase (t : FileTree) (p q : Place) :
    (t.erase p).get? q = if q = p then none else t.get? q := by
  unfold get? erase
  split
  · subst_vars
    simp [List.find?_filter]
  · rename_i other
    simp only [List.find?_filter]
    congr 1
    apply List.find?_congr
    intro x _
    by_cases named : x.1 = q <;> simp [named, other]

theorem get?_of_get?_erase {t : FileTree} {p q : Place} {n : Node}
    (found : (t.erase p).get? q = some n) : q ≠ p ∧ t.get? q = some n := by
  rw [get?_erase] at found
  split at found
  · cases found
  · exact ⟨‹_›, found⟩

theorem isDir_of_isDir_erase {t : FileTree} {p q : Place} (dir : (t.erase p).isDir q = true) :
    t.isDir q = true := by
  unfold isDir at *
  rcases found : (t.erase p).get? q with _ | n <;> rw [found] at dir
  · simp only [Bool.or_false] at dir
    simp [dir]
  · rw [(get?_of_get?_erase found).2]
    exact dir

/-- A step through a directory of a tree with an entry taken away is the same step in the whole
tree: taking an entry away can only make a walk fail. -/
theorem step_of_step_erase {t : FileTree} {p here next : Place} {part : String}
    (stepped : (t.erase p).step here part = .ok next) : t.step here part = .ok next := by
  unfold step at *
  split_ifs at stepped ⊢
  · exact stepped
  · exact stepped
  · dsimp only at stepped ⊢
    rcases found : (t.erase p).get? (here ++ [part]) with _ | node <;> rw [found] at stepped
    · cases stepped
    · rw [(get?_of_get?_erase found).2]
      cases node with
      | link target =>
        dsimp only at stepped ⊢
        split_ifs at stepped with dir
        · rw [if_pos (isDir_of_isDir_erase dir)]
          exact stepped
      | _ => exact stepped

theorem walk_of_walk_erase {t : FileTree} {p : Place} :
    ∀ {here dir : Place} {parts : List String}, (t.erase p).walk here parts = .ok dir →
      t.walk here parts = .ok dir
  | here, dir, [], walked => walked
  | here, dir, part :: parts, walked => by
    unfold walk at walked ⊢
    rcases stepped : (t.erase p).step here part with e | next <;>
      simp only [stepped, bind, Except.bind] at walked
    · cases walked
    · rw [step_of_step_erase stepped]
      exact walk_of_walk_erase walked

/-- Whether a path names something that removing a file would take away: an entry other than a
directory, reached through directories. -/
def removable (t : FileTree) (cwd : Place) (path : String) : Bool :=
  (t.unlink cwd path).isOk

/-- Unlinking takes away the entry at the place of the path's last part, past the directories of
the others, and nothing else. -/
theorem unlink_eq_ok {t t' : FileTree} {cwd : Place} {path : String}
    (removed : t.unlink cwd path = .ok t') :
    ∃ last dir, (pathParts path).getLast? = some last ∧
      t.walk (if isAbsolute path then [] else cwd) (pathParts path).dropLast = .ok dir ∧
      t' = t.erase (dir ++ [last]) := by
  unfold unlink at removed
  dsimp only at removed
  rcases named : (pathParts path).getLast? with _ | last <;> rw [named] at removed
  · cases removed
  · rcases walked : t.walk (if isAbsolute path then [] else cwd) (pathParts path).dropLast with
      e | dir <;> simp only [walked, bind, Except.bind] at removed
    · cases removed
    · refine ⟨last, dir, rfl, rfl, ?_⟩
      -- every way but one ends in a refusal
      split_ifs at removed
      all_goals split at removed
      all_goals first | (cases removed; rfl) | cases removed

theorem removable_of_unlink {t t' : FileTree} {cwd : Place} {path : String}
    (removed : t.unlink cwd path = .ok t') : t'.removable cwd path = false := by
  obtain ⟨last, dir, named, walked, rfl⟩ := unlink_eq_ok removed
  unfold removable unlink
  dsimp only
  rw [named]
  rcases walked' : (t.erase (dir ++ [last])).walk (if isAbsolute path then [] else cwd)
      (pathParts path).dropLast with e | dir'
  · simp [bind, Except.bind, Except.isOk, Except.toBool]
  · -- the directories are walked as before, to the place whose entry is gone
    obtain rfl : dir' = dir := by
      have same := walk_of_walk_erase walked'
      rw [walked] at same
      exact (Except.ok.inj same).symm
    have gone : (t.erase (dir' ++ [last])).get? (dir' ++ [last]) = none := by simp [get?_erase]
    simp only [bind, Except.bind]
    split_ifs <;> simp [gone, Except.isOk, Except.toBool, throw, throwThe, MonadExceptOf.throw]

/-- None of the names has an entry left at its place in the tree. -/
def Cleared (t : FileTree) (names : List String) : Prop :=
  ∀ name ∈ names, t.get? (pathParts name) = none

theorem Cleared.erase {t : FileTree} {names : List String} (cleared : t.Cleared names)
    (name : String) : (t.erase (pathParts name)).Cleared (names ++ [name]) := by
  intro other mem
  rw [get?_erase]
  split
  · rfl
  · rcases List.mem_append.1 mem with old | new
    · exact cleared other old
    · simp_all

end Pipework.Host.FileTree

namespace Pipework.Run

open Pipework.Host Pipework.Machine Pipework.Shell

variable {α β : Type}

/-! ### The count of temporary names -/

/-- The temporary names handed out while the machine's count went from `a` to `b`, in order. -/
def handedOut (a b : Nat) : List String :=
  (List.range' (a + 1) (b - a)).map Sys.tempPath

@[simp] theorem handedOut_self (a : Nat) : handedOut a a = [] := by
  simp [handedOut]

theorem handedOut_succ {a b : Nat} (le : a ≤ b) :
    handedOut a (b + 1) = handedOut a b ++ [Sys.tempPath (b + 1)] := by
  have count : b + 1 - a = (b - a) + 1 := by omega
  have last : a + 1 + 1 * (b - a) = b + 1 := by omega
  rw [handedOut, handedOut, count, List.range'_concat, last, List.map_append, List.map_singleton]

theorem handedOut_append {a b c : Nat} (first : a ≤ b) (second : b ≤ c) :
    handedOut a b ++ handedOut b c = handedOut a c := by
  have count : c - a = (b - a) + (c - b) := by omega
  have start : b + 1 = a + 1 + 1 * (b - a) := by omega
  rw [handedOut, handedOut, handedOut, ← List.map_append, count, start, List.range'_append]

/-- A step of the machine that ends on every machine and hands out no temporary name. -/
abbrev Sys.KeepsCount (x : Sys α) : Prop :=
  ∀ n, Sys.Triple (·.temps = n) x fun _ w => w.temps = n

namespace Sys.KeepsCount

theorem pure' (a : α) : KeepsCount (pure a : Sys α) :=
  fun _ => Sys.Triple.pure' fun _ kept => kept

theorem bind {x : Sys α} {f : α → Sys β} (first : KeepsCount x) (next : ∀ a, KeepsCount (f a)) :
    KeepsCount (x >>= f) :=
  fun n => (first n).bind fun a => next a n

theorem tree : KeepsCount Sys.tree := fun _ w kept => ⟨w.tree, w, rfl, kept⟩

theorem setTree (t : FileTree) : KeepsCount (Sys.setTree t) := fun _ _ kept => ⟨(), _, rfl, kept⟩

theorem addDesc (d : Description) : KeepsCount (Sys.addDesc d) := fun _ _ kept => ⟨_, _, rfl, kept⟩

theorem newPid : KeepsCount Sys.newPid := fun _ _ kept => ⟨_, _, rfl, kept⟩

theorem newPipe : KeepsCount Sys.newPipe := addDesc _

theorem newScratch : KeepsCount Sys.newScratch := addDesc _

theorem returns {x : Sys α} (keeps : KeepsCount x) : Sys.Returns x := by
  intro w _
  obtain ⟨a, w', ran, -⟩ := keeps w.temps w rfl
  exact ⟨a, w', ran, trivial⟩

end Sys.KeepsCount

theorem Engine.Triple.of_count {x : Engine α} {ok : α → World → Prop}
    {err : ExecError → World → Prop} {P : Nat → Prop}
    (each : ∀ n, P n → Engine.Triple (·.temps = n) x ok err) :
    Engine.Triple (fun w => P w.temps) x ok err :=
  fun w kept => each w.temps kept w rfl

theorem openPath_keepsCount (p : Proc) (path : String) (access : Access) :
    Sys.KeepsCount (Sys.openPath p path access) := by
  unfold Sys.openPath
  refine .bind .tree fun t => ?_
  repeat' (first
    | exact .pure' _
    | refine .bind (.addDesc _) fun _ => ?_
    | refine .bind (.setTree _) fun _ => ?_
    | split)

theorem workingPlace_keepsCount (ctx : Context) : Sys.KeepsCount (workingPlace ctx) := by
  unfold workingPlace
  refine .bind .tree fun t => ?_
  split <;> exact .pure' _

theorem wireOutputs_keepsCount (plan : StreamPlan) (files : List Nat) (last nextReads : Bool) :
    Sys.KeepsCount (wireOutputs plan files last nextReads) := by
  unfold wireOutputs wireOutputs.wireErrors
  dsimp only
  repeat' (first
    | exact .pure' _
    | refine .bind .newPipe fun _ => ?_
    | refine .bind .newScratch fun _ => ?_
    | split
    | refine .bind ?_ fun _ => ?_)

theorem openTarget_keepsCount (ctx : Context) (target : FileTarget) (n : Nat) :
    Engine.Triple (·.temps = n) (openTarget ctx target) (fun _ w => w.temps = n)
      (fun _ w => w.temps = n) := by
  unfold openTarget
  dsimp only
  split
  · exact Engine.Triple.lift (Sys.KeepsCount.newScratch n)
  · refine Engine.Triple.bind (Engine.Triple.lift (openPath_keepsCount _ _ _ n)) fun opened => ?_
    split
    · exact Engine.Triple.pure' fun _ kept => kept
    · exact Engine.Triple.throw' fun _ kept => kept

/-! ### Making and removing the stand-ins -/

theorem makeTempFile_named (n : Nat) :
    Sys.Triple (·.temps = n) makeTempFile fun name w => w.temps = n + 1 ∧ name = Sys.tempPath (n + 1) := by
  rintro w rfl
  exact ⟨_, _, rfl, rfl, rfl⟩

/-- Replacing the null device in arguments hands out one temporary name for each `/dev/null`
argument, when the host avoids the null device, and gives exactly the names handed out, in
order. -/
theorem substituteNullArgs_counted (ctx : Context) (args : List String) (n : Nat) :
    Sys.Triple (·.temps = n) (substituteNullArgs ctx args) fun made w =>
      w.temps = n + (args.filter fun arg => ctx.host.avoidDevNull && arg == "/dev/null").length ∧
        made.2 = handedOut n w.temps := by
  unfold substituteNullArgs
  dsimp only
  -- the names kept so far are those handed out, one for each null device met so far
  refine Sys.Triple.bind (Sys.Triple.mono (Sys.Triple.forIn
    (fun done (st : Array String × Array String) w =>
      w.temps = n + (done.filter fun arg => ctx.host.avoidDevNull && arg == "/dev/null").length ∧
        st.2.toList = handedOut n w.temps) ?_)
    (fun w kept => ⟨by simp [kept], by simp [kept]⟩) fun _ _ kept => kept) fun st =>
    Sys.Triple.pure' fun _ kept => kept
  intro done arg rest st split
  split
  · rename_i null
    rintro w ⟨count, counted⟩
    refine Sys.Triple.bind (makeTempFile_named w.temps) (fun name => Sys.Triple.pure' ?_) w rfl
    rintro w' ⟨count', rfl⟩
    refine ⟨_, rfl, by simp [List.filter_append, null, count', count]; omega, ?_⟩
    simp [count', handedOut_succ (show n ≤ w.temps by omega), counted]
  · rename_i other
    refine Sys.Triple.pure' fun w ⟨count, counted⟩ => ⟨_, rfl, ?_, counted⟩
    simp only [Bool.not_eq_true] at other
    simp [List.filter_append, other, count]

theorem removeTemps_clears (names : List String) (n : Nat) :
    Sys.Triple (·.temps = n) (removeTemps names) fun _ w => w.temps = n ∧ w.tree.Cleared names := by
  unfold removeTemps
  refine Sys.Triple.bind (Sys.Triple.mono (Sys.Triple.forIn
    (fun done _ w => w.temps = n ∧ w.tree.Cleared done) ?_)
    (fun w kept => ⟨kept, by simp [FileTree.Cleared]⟩) fun _ _ kept => kept) fun _ =>
    Sys.Triple.pure' fun _ kept => kept
  rintro done name rest _ - w ⟨count, cleared⟩
  exact ⟨_, _, rfl, _, rfl, count, cleared.erase name⟩

theorem removeTemps_cleared (names : List String) :
    Sys.Triple (fun _ => True) (removeTemps names) fun _ w => w.tree.Cleared names :=
  fun w _ => (removeTemps_clears names w.temps).mono (fun _ kept => kept)
    (fun _ _ kept => kept.2) w rfl

theorem abandon_clears {ok : α → World → Prop} (names : List String) (e : ExecError) (n : Nat) :
    Engine.Triple (·.temps = n) (abandon names e) ok
      (fun _ w => w.temps = n ∧ w.tree.Cleared names) := by
  unfold abandon
  exact Engine.Triple.bind (Engine.Triple.lift (removeTemps_clears names n)) fun _ =>
    Engine.Triple.throw' fun _ kept => kept

theorem abandon_cleared {ok : α → World → Prop} (names : List String) (e : ExecError) :
    Engine.Triple (fun _ => True) (abandon names e) ok fun _ w => w.tree.Cleared names :=
  fun w _ => (abandon_clears names e w.temps).mono (fun _ kept => kept) (fun _ _ kept => kept)
    (fun _ _ kept => kept.2) w rfl

theorem abandon_counted {ok : α → World → Prop} {names : List String} {e : ExecError} {a n : Nat}
    (counted : names = handedOut a n) :
    Engine.Triple (·.temps = n) (abandon names e) ok
      (fun _ w => w.tree.Cleared (handedOut a w.temps)) :=
  (abandon_clears names e n).mono (fun _ kept => kept) (fun _ _ kept => kept)
    fun _ w ⟨count, cleared⟩ => by rwa [count, ← counted]

theorem bind_abandon_counted {f : α → Engine β} {ok : β → World → Prop} {names : List String}
    {e : ExecError} {a n : Nat} (counted : names = handedOut a n) :
    Engine.Triple (·.temps = n) (abandon names e >>= f) ok
      (fun _ w => w.tree.Cleared (handedOut a w.temps)) :=
  Engine.Triple.bind (abandon_counted counted) fun _ => Engine.Triple.of_false

/-- Setting up the stages gives as its temporary files exactly the names it handed out; when it
stops with an error, none of those names has an entry left. -/
theorem prepareStages_counted (ctx : Context) (commands : List (SimpleCommand × String × StreamPlan))
    (a : Nat) :
    Engine.Triple (·.temps = a) (prepareStages ctx commands)
      (fun prepared w => a ≤ w.temps ∧ prepared.2 = handedOut a w.temps)
      (fun _ w => w.tree.Cleared (handedOut a w.temps)) := by
  unfold prepareStages
  -- the loop keeps the names handed out since it started
  refine Engine.Triple.bind (Engine.Triple.mono (Engine.Triple.forIn
    (fun _ (st : Option Nat × Array Stage × Array String) w =>
      a ≤ w.temps ∧ st.2.2.toList = handedOut a w.temps) ?_)
    (fun w kept => ⟨kept.ge, by simp [kept]⟩) (fun _ _ kept => kept) (fun _ _ kept => kept))
    fun st => Engine.Triple.pure' fun _ kept => kept
  rintro done ⟨⟨command, program, plan⟩, k⟩ rest ⟨upstream, stages, temps⟩ -
  dsimp only
  refine Engine.Triple.of_count (P := fun n => a ≤ n ∧ temps.toList = handedOut a n)
    fun n ⟨le, counted⟩ => ?_
  -- the files hand out no name, and a file that cannot be opened gives up on the names so far
  refine Engine.Triple.bind (Engine.Triple.tryCatch
    (Engine.Triple.mapM fun target _ => openTarget_keepsCount ctx target n)
    fun _ => abandon_counted counted) fun files => ?_
  refine Engine.Triple.bind (Engine.Triple.lift (substituteNullArgs_counted ctx _ n)) fun sub => ?_
  obtain ⟨args, made⟩ := sub
  refine Engine.Triple.of_count (P := fun m => m = n + _ ∧ made = handedOut n m)
    fun m ⟨count, made_eq⟩ => ?_
  have counted' : (temps ++ made.toArray).toList = handedOut a m := by
    rw [Array.toList_append, counted, List.toList_toArray, made_eq,
      handedOut_append le (by omega)]
  simp only [pure_bind]
  -- the rest hands out no name, and a process that cannot start gives up on all of them; each
  -- step is matched by its head only, so that no step is unfolded to fit another
  repeat' (first
    | with_reducible refine Engine.Triple.bind
                          (Engine.Triple.lift (Sys.KeepsCount.newPipe m)) fun _ => ?_
    | with_reducible refine Engine.Triple.bind
                          (Engine.Triple.lift (wireOutputs_keepsCount _ _ _ _ m)) fun _ => ?_
    | with_reducible refine Engine.Triple.bind
                          (Engine.Triple.lift (workingPlace_keepsCount _ m)) fun _ => ?_
    | with_reducible refine Engine.Triple.bind
                          (Engine.Triple.lift (Sys.KeepsCount.tree m)) fun _ => ?_
    | with_reducible refine Engine.Triple.bind
                          (Engine.Triple.lift (Sys.KeepsCount.newPid m)) fun _ => ?_
    | with_reducible exact bind_abandon_counted counted'
    | with_reducible exact abandon_counted counted'
    | with_reducible exact Engine.Triple.pure' fun w kept =>
                           ⟨_, rfl, by omega, by rw [kept]; exact counted'⟩
    | split)

/-! ### Every exit of a pipeline run -/

/-- Running resolved commands leaves none of the temporary names its setup handed out with an
entry: whether the stages finish, the setup stops, a process cannot start, or an interrupt stops
the run. -/
theorem runResolved_clears (ctx : Context) (p : Pipeline)
    (commands : List (SimpleCommand × String × StreamPlan)) (w₀ : World) :
    Engine.Triple (· = w₀) (runResolved ctx p commands)
      (fun _ w => w.tree.Cleared
        (handedOut w₀.temps ((prepareStages ctx commands).run.run w₀).2.temps))
      (fun _ w => w.tree.Cleared
        (handedOut w₀.temps ((prepareStages ctx commands).run.run w₀).2.temps)) := by
  -- the setup, from this machine, gives exactly the names it handed out, or stops without them
  have setup : Engine.Triple (· = w₀) (prepareStages ctx commands)
      (fun prepared _ =>
        prepared.2 = handedOut w₀.temps ((prepareStages ctx commands).run.run w₀).2.temps)
      (fun _ w =>
        w.tree.Cleared (handedOut w₀.temps ((prepareStages ctx commands).run.run w₀).2.temps)) := by
    rintro w rfl
    obtain ⟨r, w₁, ran, post⟩ := prepareStages_counted ctx commands w.temps w rfl
    refine ⟨r, w₁, ran, ?_⟩
    rw [ran]
    rcases r with e | prepared
    · exact post
    · exact post.2
  unfold runResolved
  refine Engine.Triple.bind setup fun prepared => ?_
  obtain ⟨stages, temps⟩ := prepared
  refine Engine.Triple.of_fact fun named => ?_
  dsimp only at named ⊢
  rw [← named]
  -- every exit after the setup goes through the removal
  refine Engine.Triple.bind (Engine.Triple.tryCatch (runWithin_returns stages _)
    fun e => abandon_cleared temps e) fun results => ?_
  refine Engine.Triple.bind (Engine.Triple.tryCatch (drainStages_returns _ _)
    fun e => abandon_cleared temps e) fun _ => ?_
  exact Engine.Triple.bind (Engine.Triple.lift (removeTemps_cleared temps)) fun _ =>
    Engine.Triple.pure' fun _ kept => kept

/-- The temporary names a pipeline's setup hands out from a machine: with the null device
avoided, one for each `/dev/null` argument of the stages it sets up, until it finishes or
stops. -/
def standIns (ctx : Context) (p : Pipeline) (w : World) : List String :=
  if p.commands.isEmpty then []
  else match resolveCommands ctx w.tree p.commands with
    | .error _ => []
    | .ok commands => handedOut w.temps ((prepareStages ctx commands).run.run w).2.temps

/-- A pipeline's run ends, with its code and records or with an error, and leaves no entry at any
stand-in its setup made for the null device. -/
theorem runPipeline_clears_standIns (ctx : Context) (p : Pipeline) (w : World) :
    ∃ r w', (runPipeline ctx p).run.run w = (.ok r, w') ∧ w'.tree.Cleared (standIns ctx p w) := by
  rw [runPipeline_run]
  unfold standIns
  by_cases empty : p.commands.isEmpty
  · -- nothing is set up
    simp only [empty, if_true]
    exact ⟨_, _, rfl, by simp [FileTree.Cleared]⟩
  · simp only [empty, Bool.false_eq_true, if_false]
    rcases resolved : resolveCommands ctx w.tree p.commands with e | commands
    · -- a program is missing or a plan refused before anything is made
      exact ⟨_, _, rfl, by simp [FileTree.Cleared]⟩
    · obtain ⟨r, w', ran, cleared⟩ := runResolved_clears ctx p commands w w rfl
      refine ⟨r, w', ran, ?_⟩
      rcases r with e | a <;> exact cleared

/-! ### The script file -/

/-- Removing a file leaves nothing at its path that removing a file could take away: what was
there is gone, or could never be removed. -/
theorem removeFile_unlinks (path : String) :
    Sys.Triple (fun _ => True) (removeFile path)
      fun _ w => w.tree.removable engineProc.here path = false := by
  unfold removeFile
  refine Sys.Triple.bind (fun w _ => ⟨w.tree, w, rfl, rfl⟩ :
    Sys.Triple (fun _ => True) Sys.tree fun t w => t = w.tree) fun t => ?_
  rintro w rfl
  rcases removed : w.tree.unlink engineProc.here path with e | t'
  · exact ⟨(), w, rfl, by simp [FileTree.removable, removed, Except.isOk, Except.toBool]⟩
  · exact ⟨(), _, rfl, FileTree.removable_of_unlink removed⟩

/-- A script file's run ends, with an outcome or an error of the engine, and whenever the file
could be opened for writing, nothing is left at its path that removing a file could take away:
whether the script's process exits, is killed, is interrupted or cannot start. -/
theorem runScriptFile_removes_script (ctx : Context) (argv : List String) (path contents : String)
    (w : World) :
    ∃ r w', (runScriptFile ctx argv path contents).run.run w = (.ok r, w') ∧
      ((∃ d, ((Sys.openPath engineProc path .truncate).run w).1 = .ok (.ok d)) →
        w'.tree.removable engineProc.here path = false) := by
  have run : Engine.Triple (· = w) (runScriptFile ctx argv path contents)
      (fun _ w' => (∃ d, ((Sys.openPath engineProc path .truncate).run w).1 = .ok (.ok d)) →
        w'.tree.removable engineProc.here path = false)
      (fun _ w' => (∃ d, ((Sys.openPath engineProc path .truncate).run w).1 = .ok (.ok d)) →
        w'.tree.removable engineProc.here path = false) := by
    have opening : Sys.Triple (· = w) (Sys.openPath engineProc path .truncate)
        fun opened w₁ => (Sys.openPath engineProc path .truncate).run w = (.ok opened, w₁) := by
      intro w₀ same
      subst w₀
      obtain ⟨opened, w₁, ran, -⟩ := (openPath_keepsCount engineProc path .truncate).returns w trivial
      exact ⟨opened, w₁, ran, ran⟩
    unfold runScriptFile
    refine Engine.Triple.bind (Engine.Triple.lift opening) fun opened => ?_
    split
    · -- a file that cannot be opened stops the run before anything is written
      refine Engine.Triple.throw' fun w₁ opened' found => ?_
      obtain ⟨d, written⟩ := found
      rw [opened'] at written
      cases written
    · rename_i d
      have written : Sys.Triple
          (fun w₁ => (Sys.openPath engineProc path .truncate).run w = (.ok (.ok d), w₁))
          (Sys.writeDesc d contents.toUTF8) fun _ _ => True := by
        intro w₁ opened'
        obtain ⟨rfl, desc, pushed, notPipe⟩ := Sys.openPath_ok opened'
        exact writeDesc_returns notPipe _ w₁ (by simp [pushed])
      refine Engine.Triple.bind (Engine.Triple.lift written) fun _ => ?_
      -- whatever the script's process does, the file is removed before the run ends
      refine Engine.Triple.bind (Engine.Triple.tryCatch
        (Engine.Returns.bind (runWholeScript_returns ctx _) fun _ =>
          Engine.Triple.pure' fun _ _ => trivial)
        fun _ => Engine.Triple.pure' fun _ _ => trivial) fun result => ?_
      refine Engine.Triple.bind (Engine.Triple.lift (removeFile_unlinks path)) fun _ => ?_
      split
      · exact Engine.Triple.pure' fun _ gone _ => gone
      · exact Engine.Triple.throw' fun _ gone _ => gone
  obtain ⟨r, w', ran, removed⟩ := run w rfl
  exact ⟨r, w', ran, by rcases r with e | outcome <;> exact removed⟩

/-- Temporary files do not outlive a run. A script file's run ends, and when its file could be
written, nothing is left at the file's path that removing a file could take away; a pipeline's
run ends with no entry left at any stand-in its setup made for the null device. Both hold
however the run ends: with a result, a process that cannot start, one killed or interrupted, or a
failed setup. -/
theorem temporary_files_removed :
    (∀ (ctx : Context) (argv : List String) (path contents : String) (w : World),
      ∃ r w', (runScriptFile ctx argv path contents).run.run w = (.ok r, w') ∧
        ((∃ d, ((Sys.openPath engineProc path .truncate).run w).1 = .ok (.ok d)) →
          w'.tree.removable engineProc.here path = false)) ∧
    (∀ (ctx : Context) (p : Pipeline) (w : World),
      ∃ r w', (runPipeline ctx p).run.run w = (.ok r, w') ∧ w'.tree.Cleared (standIns ctx p w)) :=
  ⟨runScriptFile_removes_script, runPipeline_clears_standIns⟩

end Pipework.Run
