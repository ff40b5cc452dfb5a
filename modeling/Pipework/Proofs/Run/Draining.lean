import Mathlib
import Pipework.Proofs.Run.Ensures

/-! Waiting for the stages: the last first, then the others in order, each leaving its output in the
slot of its own index. -/

namespace Pipework.Run

open Pipework.Host

theorem mem_drainOrder {i n : Nat} : i ∈ drainOrder n ↔ i < n := by
  rcases n with _ | n
  · simp [drainOrder]
  · simp [drainOrder]
    omega

theorem drainOrder_nodup (n : Nat) : (drainOrder n).Nodup := by
  rcases n with _ | n
  · simp [drainOrder]
  · simp [drainOrder, List.nodup_range]

theorem lt_length_zip_of_mem_drainOrder {stages : List Stage}
    {results : List (ByteArray × ByteArray × Int)} (lengths : results.length = stages.length) {j : Nat} (mem : j ∈ drainOrder stages.length) :
    j < (stages.zip results).length := by
  simpa [lengths] using mem_drainOrder.1 mem

section
variable {pairs : List (Stage × ByteArray × ByteArray × Int)}

/-- The drain once the stages at the indices `done` were waited for, against the stages paired
with what they give: each of those stopped running, was not killed by an interrupt and left its
output in its slot, and every other stage still runs. -/
structure Drain.Waited (pairs : List (Stage × ByteArray × ByteArray × Int)) (done : List Nat)
    (d : Drain) : Prop where
  running : ∀ i, d.running[i]? = pairs[i]?.map fun pair => if i ∈ done then none else some pair
  outputs : ∀ i, d.outputs[i]? =
    pairs[i]?.map fun pair => if i ∈ done then some pair.2 else none
  calm : ∀ i ∈ done, ∀ pair ∈ pairs[i]?, isInterrupt pair.2.2.2 = false

theorem Drain.Waited.start {stages : List Stage} {results : List (ByteArray × ByteArray × Int)}
    (lengths : results.length = stages.length) :
    Drain.Waited (stages.zip results) [] (Drain.start stages results) where
  running i := by simp [Drain.start]
  outputs i := by
    rw [Drain.start, Array.getElem?_replicate]
    by_cases bound : i < stages.length
    · have paired : i < (stages.zip results).length := by simp [lengths, bound]
      simp [bound, List.getElem?_eq_getElem paired]
    · simp [bound]
  calm := by simp

/-- Waiting for a stage not waited for before finds it running; unless an interrupt killed it,
its slot takes its output and nothing else changes. -/
theorem Drain.Waited.wait {done : List Nat} {d : Drain} {i : Nat}
    (waited : Drain.Waited pairs done d) (fresh : i ∉ done) (bound : i < pairs.length) :
    (d.wait i).Ensures (Drain.Waited pairs (done ++ [i]))
      fun e => ∃ program, e = .interrupted program := by
  rcases paired : pairs[i] with ⟨stage, out, err, code⟩
  have found : d.running[i]? = some (some (stage, out, err, code)) := by
    rw [waited.running, List.getElem?_eq_getElem bound, paired]
    simp [fresh]
  have inRunning : i < d.running.size := (Array.getElem?_eq_some_iff.1 found).1
  have inOutputs : i < d.outputs.size := by
    have kept := waited.outputs i
    rw [List.getElem?_eq_getElem bound] at kept
    exact (Array.getElem?_eq_some_iff.1 kept).1
  unfold Drain.wait
  rw [found]
  dsimp only
  split
  · exact Engine.Ensures.throw ⟨_, rfl⟩
  · next calm =>
    -- only the slot at `i` changes, in both tables
    refine Engine.Ensures.pure ⟨fun j => ?_, fun j => ?_, ?_⟩
    · rw [Array.getElem?_setIfInBounds, waited.running]
      by_cases same : i = j
      · subst same
        simp [inRunning, List.getElem?_eq_getElem bound]
      · simp [same, Ne.symm same]
    · rw [Array.getElem?_setIfInBounds, waited.outputs]
      by_cases same : i = j
      · subst same
        simp [inOutputs, List.getElem?_eq_getElem bound, paired]
      · simp [same, Ne.symm same]
    · intro j mem pair kept
      rcases List.mem_append.1 mem with earlier | now
      · exact waited.calm j earlier pair kept
      · obtain rfl := List.mem_singleton.1 now
        rw [List.getElem?_eq_getElem bound, paired, Option.mem_def, Option.some_inj] at kept
        subst kept
        simpa using calm

/-- Waiting for stages at distinct indices, none of them waited for before, keeps the drain as
`Waited` says. -/
theorem Drain.Waited.foldlM {done : List Nat} {d : Drain} (waited : Drain.Waited pairs done d)
    (order : List Nat) (distinct : (done ++ order).Nodup)
    (bound : ∀ i ∈ order, i < pairs.length) :
    (order.foldlM Drain.wait d).Ensures (Drain.Waited pairs (done ++ order))
      fun e => ∃ program, e = .interrupted program := by
  induction order generalizing done d with
  | nil => simpa using Engine.Ensures.pure waited
  | cons i order ih =>
    rw [List.foldlM_cons]
    have fresh : i ∉ done := fun mem => (List.nodup_append.1 distinct).2.2 i mem i (by simp) rfl
    refine Engine.Ensures.bind (waited.wait fresh (bound i (by simp))) fun d' waited' => ?_
    have rest := ih waited' (by simpa using distinct) fun j mem => bound j (by simp [mem])
    simpa using rest

end

/-- Every stage still runs when its turn in the drain comes: the waits before it never took it,
so the drain never passes over a slot. -/
theorem drain_finds_running {stages : List Stage} {results : List (ByteArray × ByteArray × Int)}
    (lengths : results.length = stages.length) {done : List Nat} {i : Nat} {rest : List Nat}
    (split : drainOrder stages.length = done ++ i :: rest) {w : World} {d : Drain}
    (ran : ((done.foldlM Drain.wait (Drain.start stages results)).run.run w).1 = .ok (.ok d)) :
    ∃ stage result, stages[i]? = some stage ∧ results[i]? = some result ∧
      d.running[i]? = some (some (stage, result)) := by
  have distinct := drainOrder_nodup stages.length
  rw [split] at distinct
  have waited := ((Drain.Waited.start lengths).foldlM done (by simpa using distinct.of_append_left)
    fun j mem => lt_length_zip_of_mem_drainOrder lengths (by simp [split, mem])).result ran
  have fresh : i ∉ done := fun mem => (List.nodup_append.1 distinct).2.2 i mem i (by simp) rfl
  have bound : i < (stages.zip results).length :=
    lt_length_zip_of_mem_drainOrder lengths (by simp [split])
  have bothBound : i < stages.length ∧ i < results.length := by simpa using bound
  refine ⟨stages[i], results[i], List.getElem?_eq_getElem bothBound.1,
    List.getElem?_eq_getElem bothBound.2, ?_⟩
  rw [waited.running, List.getElem?_eq_getElem bound]
  simp [fresh]

/-- Once the drain ends, every slot holds the output of its own stage, none of them killed by an
interrupt: no slot is left for the default. -/
theorem drainStages_outputs {stages : List Stage} {results : List (ByteArray × ByteArray × Int)}
    (lengths : results.length = stages.length) :
    (drainStages stages results).Ensures
      (fun outputs => outputs.toList = results.map some ∧
        ∀ r ∈ results, isInterrupt r.2.2 = false)
      fun e => ∃ program, e = .interrupted program := by
  unfold drainStages
  refine Engine.Ensures.bind ((Drain.Waited.start lengths).foldlM (drainOrder stages.length)
    (by simpa using drainOrder_nodup stages.length)
    fun j => lt_length_zip_of_mem_drainOrder lengths)
    fun d waited => ?_
  refine Engine.Ensures.pure ⟨List.ext_getElem? fun i => ?_, fun r mem => ?_⟩
  · rw [Array.getElem?_toList, waited.outputs, List.getElem?_map]
    by_cases bound : i < stages.length
    · have bothBound : i < (stages.zip results).length := by simp [lengths, bound]
      simp [List.getElem?_eq_getElem bothBound, List.getElem?_eq_getElem (lengths ▸ bound),
        mem_drainOrder, bound]
    · have beyond : results.length ≤ i := by omega
      have unpaired : (stages.zip results).length ≤ i := by simp [lengths]; omega
      simp [List.getElem?_eq_none beyond, List.getElem?_eq_none unpaired]
  · -- every stage was waited for, and none was killed by an interrupt
    obtain ⟨i, bound, rfl⟩ := List.getElem_of_mem mem
    have staged : i < stages.length := lengths ▸ bound
    have paired : i < (stages.zip results).length := by simp [lengths, staged]
    exact waited.calm i (by simp [mem_drainOrder, staged]) (stages[i], results[i])
      (by simp [List.getElem?_eq_getElem paired])

end Pipework.Run
