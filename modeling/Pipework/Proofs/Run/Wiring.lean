import Mathlib
import Pipework.Proofs.Run.Allocation
import Pipework.Proofs.Run.Redirection

/-! How the stages of a pipeline are wired together. -/

namespace Pipework.Run

open Pipework.Host Pipework.Shell

/-- The description a stage's descriptor refers to (0 when it has none). -/
def Stage.fd (s : Stage) (n : Nat) : Nat :=
  (s.proc.descOf n).getD 0

/-- The descriptions a stage's output and errors are read from: the pipe it hands to the next
stage, then those its record keeps. -/
def Stage.readers (s : Stage) : List Nat :=
  s.feeds.toList ++ s.keptOutput ++ s.keptErrors

/-- Every reading of a description the stages were given: each stage's input, then what its record
keeps of its output and errors. -/
def consumers (stages : List Stage) : List Nat :=
  stages.flatMap fun s => s.fd 0 :: (s.keptOutput ++ s.keptErrors)

/-- How a stage's input was chosen, from `w` to `w'`: the file its input slot names, the pipe the
stage before hands on, or else a new empty pipe. -/
def InputChosen (plan : StreamPlan) (files : List Nat) (upstream : Option Nat) (w : World)
    (input : Nat) (w' : World) : Prop :=
  match plan.input, upstream with
  | .file i, _ => input = files.getD i 0 ∧ w' = w
  | .default _, some d => input = d ∧ w' = w
  | .default _, none => input = w.table.size ∧
      w' = { w with table := w.table.push { backing := .pipe {}, readable := true, writable := true } }

/-- What setting up one stage from the machine `w` gave, in `w'`, when the stage before handed on
`upstream`: the descriptions of its output and errors, and those they are read from, are new; its
input is the one handed on when it takes pipeline input, and otherwise new too; an input nobody
hands on is an empty pipe; and the wiring's facts about its readers hold of the stage. -/
structure StagePrepared (plan : StreamPlan) (last nextReads : Bool) (upstream : Option Nat)
    (w : World) (s : Stage) (w' : World) : Prop where
  grows : w.Extends w'
  shaped : s.proc.fds = [(0, s.fd 0), (1, s.fd 1), (2, s.fd 2)]
  fresh : ∀ d ∈ s.fd 1 :: s.fd 2 :: s.readers, w.table.size ≤ d ∧ d < w'.table.size
  handed : ∀ st d, plan.input = .default st → upstream = some d → s.fd 0 = d
  own : (upstream = none ∨ ∀ st, plan.input ≠ .default st) →
    w.table.size ≤ s.fd 0 ∧ s.fd 0 < w'.table.size ∧ s.fd 0 ∉ s.readers
  closed : plan.readsPipelineInput = true → upstream = none →
    w'.table[s.fd 0]? = some { backing := .pipe {}, readable := true, writable := true } ∧
      s.fd 0 ≠ s.fd 1 ∧ s.fd 0 ≠ s.fd 2
  nodup : s.readers.Nodup
  lands : ∀ slot fd, (slot, fd) ∈ [(plan.output, 1), (plan.error, 2)] → (∀ j, slot ≠ .file j) →
    s.fd fd ∈ s.readers
  feeds : ∀ d, s.feeds = some d → nextReads = true
  live : last = false → ∀ fd ∈ [1, 2], w'.IsPipe (s.fd fd) → s.feeds = some (s.fd fd)

/-- The record of a stage whose setup opened `files` from `w` to `w₁`, chose its input into `w₂`,
and was wired into `w₃`; what followed left the table alone. -/
theorem stagePrepared {plan : StreamPlan} {files : List Nat} {last nextReads : Bool}
    {upstream : Option Nat} {input : Nat} {wr : Wiring} {w w₁ w₂ w₃ w' : World} {s : Stage}
    (coherent : plan.Coherent)
    (opened : files.length = plan.files.length ∧ w.Extends w₁ ∧
      ∀ d ∈ files, w.table.size ≤ d ∧ d < w₁.table.size ∧ ¬ w₁.IsPipe d)
    (chosen : InputChosen plan files upstream w₁ input w₂)
    (wired : Wired plan files last nextReads w₂ wr w₃) (settled : w'.table = w₃.table)
    (fds : s.proc.fds = [(0, input), (1, wr.output), (2, wr.errors)])
    (kept : s.keptOutput = wr.keptOutput ∧ s.keptErrors = wr.keptErrors)
    (feeds : s.feeds = if nextReads then wr.handOn else none) :
    StagePrepared plan last nextReads upstream w s w' := by
  obtain ⟨length, grows₁, fileFacts⟩ := opened
  have fd₀ : s.fd 0 = input := by simp [Stage.fd, Proc.descOf, fds]
  have fd₁ : s.fd 1 = wr.output := by simp [Stage.fd, Proc.descOf, fds]
  have fd₂ : s.fd 2 = wr.errors := by simp [Stage.fd, Proc.descOf, fds]
  -- a pipe is handed on only when the next stage reads, so the stage feeds what the wiring hands on
  have feeds' : s.feeds = wr.handOn := by
    rw [feeds]
    cases handed : wr.handOn with
    | none => simp
    | some d => simp [wired.handsOn d handed]
  have readers : s.readers = wr.readers := by
    simp [Stage.readers, Wiring.readers, feeds', kept.1, kept.2]
  -- choosing the input adds at most the one pipe
  have grows₂ : w₁.Extends w₂ ∧ w₂.table.size ≤ w₁.table.size + 1 := by
    unfold InputChosen at chosen
    split at chosen
    · obtain ⟨-, rfl⟩ := chosen
      exact ⟨.refl _, by omega⟩
    · obtain ⟨-, rfl⟩ := chosen
      exact ⟨.refl _, by omega⟩
    · obtain ⟨-, rfl⟩ := chosen
      exact ⟨.push _ _, by simp⟩
  have grows₃ : w₃.Extends w' := .of_table settled
  have size₁ := grows₁.size_le
  have size₂ := grows₂.1.size_le
  have size₃ := wired.grows.size_le
  have size' := grows₃.size_le
  -- each slot names a file of the stage, or leaves its stream to the wiring
  have named : ∀ st j, plan.slotOf st = .file j → j < files.length := fun st j slot =>
    length ▸ coherent.indexed st j slot
  have outputs : ∀ d ∈ [s.fd 1, s.fd 2], d ∈ files ∨ d ∈ wr.readers := by
    intro d mem
    simp only [List.mem_cons, List.not_mem_nil, or_false] at mem
    rcases mem with rfl | rfl
    · rw [fd₁]
      exact (wired.output.cases (named .output)).imp id And.left
    · rw [fd₂]
      exact (wired.errors.cases (named .error)).imp id And.left
  have fileFresh : ∀ d ∈ files, w.table.size ≤ d ∧ d < w₂.table.size := fun d mem =>
    ⟨(fileFacts d mem).1, by have := (fileFacts d mem).2.1; omega⟩
  have readerFresh : ∀ d ∈ wr.readers, w₂.table.size ≤ d ∧ d < w'.table.size := fun d mem =>
    ⟨(wired.fresh d mem).1, by have := (wired.fresh d mem).2; omega⟩
  have bounded : ∀ d, d ∈ files ∨ d ∈ wr.readers → w.table.size ≤ d ∧ d < w'.table.size := by
    rintro d (file | reader)
    · exact ⟨(fileFresh d file).1, by have := (fileFresh d file).2; omega⟩
    · exact ⟨by have := (readerFresh d reader).1; omega, (readerFresh d reader).2⟩
  refine
    { grows := grows₁.trans (grows₂.1.trans (wired.grows.trans grows₃))
      shaped := by rw [fds, fd₀, fd₁, fd₂]
      fresh := ?fresh
      handed := ?handed
      own := ?own
      closed := ?closed
      nodup := by rw [readers]; exact wired.nodup
      lands := ?lands
      feeds := fun d fed => wired.handsOn d (feeds' ▸ fed)
      live := ?live }
  case fresh =>
    intro d mem
    rw [readers] at mem
    simp only [List.mem_cons] at mem
    rcases mem with rfl | rfl | reader
    · exact bounded _ (outputs (s.fd 1) (by simp))
    · exact bounded _ (outputs (s.fd 2) (by simp))
    · exact bounded d (.inr reader)
  case handed =>
    intro st d input_eq handed
    simp only [InputChosen, input_eq, handed] at chosen
    rw [fd₀, chosen.1]
  case own =>
    intro unhanded
    rw [fd₀, readers]
    cases inputSlot : plan.input with
    | file i =>
      -- an input file, opened before the wiring made its readers
      simp only [InputChosen, inputSlot] at chosen
      obtain ⟨rfl, rfl⟩ := chosen
      have mem : files.getD i 0 ∈ files := by
        rw [List.getD_eq_getElem _ _ (named .input i inputSlot)]
        exact List.getElem_mem _
      have := (fileFacts _ mem).2.1
      refine ⟨(fileFacts _ mem).1, by omega, fun reader => ?_⟩
      have := (readerFresh _ reader).1
      omega
    | default st =>
      cases handedOn : upstream with
      | some d =>
        rcases unhanded with none | notDefault
        · cases handedOn.symm.trans none
        · exact absurd inputSlot (notDefault st)
      | none =>
        -- a new pipe, made after the files and before the wiring
        simp only [InputChosen, inputSlot, handedOn] at chosen
        obtain ⟨rfl, rfl⟩ := chosen
        refine ⟨size₁, by simp at size₃; omega, fun reader => ?_⟩
        have := (readerFresh _ reader).1
        simp at this
  case closed =>
    intro reads unhanded
    have inputSlot : plan.input = .default .input := by
      simpa [StreamPlan.readsPipelineInput] using reads
    simp only [InputChosen, inputSlot, unhanded] at chosen
    obtain ⟨rfl, rfl⟩ := chosen
    -- the pipe sits just after the files and just before what the wiring made
    have apart : ∀ d ∈ [s.fd 1, s.fd 2], d ≠ w₁.table.size := by
      intro d mem
      rcases outputs d mem with file | reader
      · have := (fileFacts d file).2.1
        omega
      · have := (readerFresh d reader).1
        simp at this
        omega
    rw [fd₀]
    refine ⟨?_, (apart (s.fd 1) (by simp)).symm, (apart (s.fd 2) (by simp)).symm⟩
    rw [(wired.grows.trans grows₃).getElem? (by simp)]
    simp
  case lands =>
    intro slot fd mem unnamed
    simp only [List.mem_cons, Prod.mk.injEq, List.not_mem_nil, or_false] at mem
    rw [readers]
    rcases mem with ⟨rfl, rfl⟩ | ⟨rfl, rfl⟩
    · exact fd₁ ▸ wired.output.reader unnamed
    · exact fd₂ ▸ wired.errors.reader unnamed
  case live =>
    intro notLast fd mem pipe
    rw [feeds']
    have endpoint : s.fd fd ∈ [s.fd 1, s.fd 2] := by
      simp only [List.mem_cons, List.not_mem_nil, or_false] at mem
      rcases mem with rfl | rfl <;> simp
    rcases outputs _ endpoint with file | reader
    · -- the files are not pipes
      have := fileFacts _ file
      rw [(grows₂.1.trans (wired.grows.trans grows₃)).isPipe_iff this.2.1] at pipe
      exact absurd pipe this.2.2
    · rw [grows₃.isPipe_iff (wired.fresh _ reader).2] at pipe
      exact wired.live notLast _ reader pipe

namespace StagePrepared

variable {plan : StreamPlan} {last nextReads : Bool} {upstream : Option Nat} {w w' : World}
  {s : Stage}

theorem input_cases (prepared : StagePrepared plan last nextReads upstream w s w') :
    (∃ d, upstream = some d ∧ s.fd 0 = d) ∨
      (w.table.size ≤ s.fd 0 ∧ s.fd 0 < w'.table.size ∧ s.fd 0 ∉ s.readers) := by
  cases inputSlot : plan.input with
  | file j => exact .inr (prepared.own (.inr fun st => by simp [inputSlot]))
  | default st =>
    cases handed : upstream with
    | some d => exact .inl ⟨d, rfl, prepared.handed st d inputSlot handed⟩
    | none => exact .inr (prepared.own (.inl handed))

theorem kept_fresh (prepared : StagePrepared plan last nextReads upstream w s w') :
    ∀ d ∈ s.keptOutput ++ s.keptErrors, w.table.size ≤ d ∧ d < w'.table.size := by
  intro d mem
  have reader : d ∈ s.readers := by
    rw [Stage.readers, List.append_assoc]
    exact List.mem_append_right _ mem
  exact prepared.fresh d (by simp [reader])

end StagePrepared

theorem getElem?_concat_eq_some {α : Type} {xs : List α} {x y : α} {i : Nat}
    (found : (xs ++ [x])[i]? = some y) : xs[i]? = some y ∨ (i = xs.length ∧ y = x) := by
  rcases Nat.lt_trichotomy i xs.length with before | rfl | after
  · rw [List.getElem?_append_left before] at found
    exact .inl found
  · rw [List.getElem?_concat_length] at found
    exact .inr ⟨rfl, (Option.some.inj found).symm⟩
  · rw [List.getElem?_append_right after.le, List.getElem?_eq_none (by simp; omega)] at found
    cases found

theorem mem_consumers {stages : List Stage} {d : Nat} :
    d ∈ consumers stages ↔ ∃ t ∈ stages, d = t.fd 0 ∨ d ∈ t.keptOutput ++ t.keptErrors := by
  simp [consumers]

/-- The loop that sets up the stages, after the stages `stages`, with `upstream` handed on, in the
machine `w`. Every description a stage was given is in the table; no description is read twice,
nor is the one handed on read yet; the stages' streams left to the wiring are read; a stage hands
on only to a next stage that reads pipeline input, and that stage reads it; a stage that is not the
last writes to no pipe but the one it hands on; and a stage handed nothing reads an empty pipe that
no stage writes to. -/
structure Built (plans : List StreamPlan) (stages : List Stage) (upstream : Option Nat) (w : World) :
    Prop where
  handed : upstream = stages.getLast?.bind Stage.feeds
  shaped : ∀ s ∈ stages, s.proc.fds = [(0, s.fd 0), (1, s.fd 1), (2, s.fd 2)]
  allocated : ∀ s ∈ stages, ∀ d ∈ s.fd 0 :: s.fd 1 :: s.fd 2 :: s.readers, d < w.table.size
  nodup : (consumers stages).Nodup
  pending : ∀ d, upstream = some d → d ∉ consumers stages
  lands : ∀ (i : Nat) s plan, stages[i]? = some s → plans[i]? = some plan →
    ∀ slot fd, (slot, fd) ∈ [(plan.output, 1), (plan.error, 2)] → (∀ j, slot ≠ .file j) →
      s.fd fd ∈ s.readers
  feeds : ∀ (i : Nat) s d, stages[i]? = some s → s.feeds = some d →
    ∃ p, plans[i + 1]? = some p ∧ p.readsPipelineInput = true
  linked : ∀ (i : Nat) s t d, stages[i]? = some s → stages[i + 1]? = some t → s.feeds = some d →
    t.fd 0 = d
  live : ∀ (i : Nat) s, stages[i]? = some s → i + 1 < plans.length →
    ∀ fd ∈ [1, 2], w.IsPipe (s.fd fd) → s.feeds = some (s.fd fd)
  closed : ∀ (i : Nat) s plan, stages[i]? = some s → plans[i]? = some plan →
    plan.readsPipelineInput = true →
    (∀ (j : Nat) r, i = j + 1 → stages[j]? = some r → r.feeds = none) →
      w.table[s.fd 0]? = some { backing := .pipe {}, readable := true, writable := true } ∧
        ∀ t ∈ stages, t.fd 1 ≠ s.fd 0 ∧ t.fd 2 ≠ s.fd 0

namespace Built

variable {plans : List StreamPlan} {stages : List Stage} {upstream : Option Nat} {w : World}

theorem start (plans : List StreamPlan) (w : World) : Built plans [] none w where
  handed := rfl
  shaped := by simp
  allocated := by simp
  nodup := by simp [consumers]
  pending := by simp
  lands := by simp
  feeds := by simp
  linked := by simp
  live := by simp
  closed := by simp

theorem consumers_allocated (built : Built plans stages upstream w) :
    ∀ d ∈ consumers stages, d < w.table.size := by
  intro d mem
  obtain ⟨t, member, input | kept⟩ := mem_consumers.1 mem
  · exact built.allocated t member d (by simp [input])
  · exact built.allocated t member d (by simp [Stage.readers] at kept ⊢; tauto)

theorem upstream_lt (built : Built plans stages upstream w) :
    ∀ d, upstream = some d → d < w.table.size := by
  intro d handed
  rw [built.handed] at handed
  obtain ⟨r, last, fed⟩ := Option.bind_eq_some_iff.1 handed
  exact built.allocated r (List.mem_of_getLast? last) d (by simp [Stage.readers, fed])

theorem upstream_none (built : Built plans stages upstream w)
    (unhanded : ∀ (j : Nat) r, stages.length = j + 1 → stages[j]? = some r → r.feeds = none) :
    upstream = none := by
  rw [built.handed]
  rcases List.eq_nil_or_concat stages with rfl | ⟨rest, r, rfl⟩
  · rfl
  · simp [unhanded rest.length r (by simp) (by simp)]

theorem upstream_of_feeds (built : Built plans stages upstream w) {i : Nat} {t : Stage} {d : Nat}
    (found : stages[i]? = some t) (next : stages.length = i + 1) (fed : t.feeds = some d) :
    upstream = some d := by
  rw [built.handed, List.getLast?_eq_getElem?, next, Nat.add_sub_cancel, found]
  exact fed

/-- Setting up one more stage keeps the invariant: what the new stage was given is new, and the
pipe handed to it is the one the stage before hands on. -/
theorem push (built : Built plans stages upstream w) {s : Stage} {plan : StreamPlan}
    {last nextReads : Bool} {upstream' : Option Nat} {w' : World}
    (current : plans[stages.length]? = some plan)
    (lastIff : last = (stages.length + 1 == plans.length))
    (nextIff : nextReads = (!last && (plans.getD (stages.length + 1) {}).readsPipelineInput))
    (prepared : StagePrepared plan last nextReads upstream w s w') (handsOn : upstream' = s.feeds) :
    Built plans (stages ++ [s]) upstream' w' := by
  subst handsOn
  have size := prepared.grows.size_le
  have within : stages.length < plans.length := (List.getElem?_eq_some_iff.1 current).1
  have input := prepared.input_cases
  have upstreamOld := built.upstream_lt
  -- what the new stage's record keeps, and what it hands on, come from its own readers
  have split : s.readers = s.feeds.toList ++ (s.keptOutput ++ s.keptErrors) := by
    simp [Stage.readers]
  have apart := List.nodup_append.1 (split ▸ prepared.nodup)
  have keptNew := prepared.kept_fresh
  have consumersNew : consumers (stages ++ [s]) =
      consumers stages ++ s.fd 0 :: (s.keptOutput ++ s.keptErrors) := by
    simp [consumers]
  refine
    { handed := by simp
      shaped := ?shaped
      allocated := ?allocated
      nodup := ?nodup
      pending := ?pending
      lands := ?lands
      feeds := ?feeds
      linked := ?linked
      live := ?live
      closed := ?closed }
  case shaped =>
    intro t mem
    rcases List.mem_append.1 mem with old | new
    · exact built.shaped t old
    · rw [List.mem_singleton.1 new]
      exact prepared.shaped
  case allocated =>
    intro t mem d described
    rcases List.mem_append.1 mem with old | new
    · exact lt_of_lt_of_le (built.allocated t old d described) size
    rw [List.mem_singleton.1 new] at described
    rcases List.mem_cons.1 described with rfl | rest
    · rcases input with ⟨d, handed, rfl⟩ | ⟨-, high, -⟩
      · exact lt_of_lt_of_le (upstreamOld _ handed) size
      · exact high
    · exact (prepared.fresh d rest).2
  case nodup =>
    rw [consumersNew, List.nodup_append, List.nodup_cons]
    refine ⟨built.nodup, ⟨?_, apart.2.1⟩, ?_⟩
    · -- the input is not what the stage keeps
      intro kept
      have := (keptNew _ kept).1
      rcases input with ⟨d, handed, eq⟩ | ⟨-, -, own⟩
      · have := upstreamOld d handed
        omega
      · exact own (by rw [split]; exact List.mem_append_right _ kept)
    · -- no earlier reading is of the new stage's descriptions
      intro a earlier b new
      have := built.consumers_allocated a earlier
      rcases List.mem_cons.1 new with rfl | kept
      · rcases input with ⟨d, handed, eq⟩ | ⟨low, -, -⟩
        · rw [eq]
          exact fun same => built.pending d handed (same ▸ earlier)
        · omega
      · have := (keptNew b kept).1
        omega
  case pending =>
    intro d fed
    have reader : d ∈ s.readers := by simp [Stage.readers, fed]
    have fresh := (prepared.fresh d (by simp [reader])).1
    rw [consumersNew]
    intro read
    rcases List.mem_append.1 read with earlier | new
    · have := built.consumers_allocated d earlier
      omega
    rcases List.mem_cons.1 new with rfl | kept
    · rcases input with ⟨d', handed, eq⟩ | ⟨-, -, own⟩
      · have := upstreamOld d' handed
        omega
      · exact own reader
    · exact apart.2.2 d (by simp [fed]) d kept rfl
  case lands =>
    intro i t p found planned
    rcases getElem?_concat_eq_some found with old | ⟨rfl, rfl⟩
    · exact built.lands i t p old planned
    · cases current.symm.trans planned
      exact prepared.lands
  case feeds =>
    intro i t d found fed
    rcases getElem?_concat_eq_some found with old | ⟨rfl, rfl⟩
    · exact built.feeds i t d old fed
    · -- handing on is decided by the next plan
      have reads := prepared.feeds d fed
      rw [nextIff, Bool.and_eq_true, Bool.not_eq_true'] at reads
      have notLast : stages.length + 1 ≠ plans.length := by
        intro same
        simp [same, reads.1] at lastIff
      have next : stages.length + 1 < plans.length := by omega
      refine ⟨_, ?_, reads.2⟩
      rw [List.getElem?_eq_getElem next, List.getD_eq_getElem _ _ next]
  case linked =>
    intro i t u d found next fed
    rcases getElem?_concat_eq_some found with old | ⟨rfl, rfl⟩
    · rcases getElem?_concat_eq_some next with nextOld | ⟨adjacent, rfl⟩
      · exact built.linked i t u d old nextOld fed
      · -- the new stage reads what the last one hands on
        obtain ⟨p, planned, reads⟩ := built.feeds i t d old fed
        rw [← adjacent] at current
        cases current.symm.trans planned
        exact prepared.handed .input d (by simpa [StreamPlan.readsPipelineInput] using reads)
          (built.upstream_of_feeds old adjacent.symm fed)
    · simp at next
  case live =>
    intro i t found more fd fds pipe
    rcases getElem?_concat_eq_some found with old | ⟨rfl, rfl⟩
    · have allocated : t.fd fd < w.table.size := by
        refine built.allocated t (List.mem_of_getElem? old) _ ?_
        simp only [List.mem_cons, List.not_mem_nil, or_false] at fds
        rcases fds with rfl | rfl <;> simp
      rw [prepared.grows.isPipe_iff allocated] at pipe
      exact built.live i t old more fd fds pipe
    · exact prepared.live (by rw [lastIff]; simp; omega) fd fds pipe
  case closed =>
    intro i t p found planned reads unhanded
    rcases getElem?_concat_eq_some found with old | ⟨rfl, rfl⟩
    · -- an earlier stage's empty pipe stays, and the new stage writes elsewhere
      have within := (List.getElem?_eq_some_iff.1 old).1
      obtain ⟨entry, others⟩ := built.closed i t p old planned reads fun j r earlier before =>
        unhanded j r earlier (by rw [List.getElem?_append_left (by omega)]; exact before)
      have allocated := built.allocated t (List.mem_of_getElem? old) (t.fd 0) (by simp)
      refine ⟨by rw [prepared.grows.getElem? allocated]; exact entry, fun t' mem => ?_⟩
      rcases List.mem_append.1 mem with earlier | new
      · exact others t' earlier
      · rw [List.mem_singleton.1 new]
        have := (prepared.fresh (s.fd 1) (by simp)).1
        have := (prepared.fresh (s.fd 2) (by simp)).1
        omega
    · -- the new stage is handed nothing, so it reads the pipe its setup made
      cases current.symm.trans planned
      have none := built.upstream_none fun j r earlier before =>
        unhanded j r earlier (by rw [List.getElem?_append_left (by omega)]; exact before)
      obtain ⟨entry, apart₁, apart₂⟩ := prepared.closed reads none
      have low := (prepared.own (.inl none)).1
      refine ⟨entry, fun t' mem => ?_⟩
      rcases List.mem_append.1 mem with earlier | new
      · have := built.allocated t' earlier (t'.fd 1) (by simp)
        have := built.allocated t' earlier (t'.fd 2) (by simp)
        omega
      · rw [List.mem_singleton.1 new]
        exact ⟨Ne.symm apart₁, Ne.symm apart₂⟩

end Built

/-- How the streams of prepared stages are wired, on the machine `w` they were prepared on. Each
output or errors stream that its plan leaves to the wiring is read exactly once among the stages'
inputs and what their records keep: by the parent, from the record, or by the next stage, from the
pipe handed on. What a stage hands on is the input of the next stage, which reads pipeline input.
A stage before the last writes to no pipe but the one it hands on, so it has at most one pipe
alive. A stage that reads pipeline input but is handed nothing reads an empty pipe that no stage
writes to. -/
structure SoundWiring (plans : List StreamPlan) (stages : List Stage) (w : World) : Prop where
  length : stages.length = plans.length
  shaped : ∀ s ∈ stages, s.proc.fds = [(0, s.fd 0), (1, s.fd 1), (2, s.fd 2)]
  oneReader : ∀ (i : Nat) s plan, stages[i]? = some s → plans[i]? = some plan →
    ∀ slot fd, (slot, fd) ∈ [(plan.output, 1), (plan.error, 2)] → (∀ j, slot ≠ .file j) →
      (consumers stages).count (s.fd fd) = 1 ∧
        (s.fd fd ∈ s.keptOutput ++ s.keptErrors ∨ s.feeds = some (s.fd fd))
  handedOn : ∀ (i : Nat) s d, stages[i]? = some s → s.feeds = some d →
    ∃ t p, stages[i + 1]? = some t ∧ plans[i + 1]? = some p ∧ p.readsPipelineInput = true ∧
      t.fd 0 = d
  onePipe : ∀ (i : Nat) s, stages[i]? = some s → i + 1 < stages.length →
    ∀ fd ∈ [1, 2], w.IsPipe (s.fd fd) → s.feeds = some (s.fd fd)
  closedInput : ∀ (i : Nat) s plan, stages[i]? = some s → plans[i]? = some plan →
    plan.readsPipelineInput = true →
    (∀ (j : Nat) r, i = j + 1 → stages[j]? = some r → r.feeds = none) →
      w.table[s.fd 0]? = some { backing := .pipe {}, readable := true, writable := true } ∧
        ∀ t ∈ stages, t.fd 1 ≠ s.fd 0 ∧ t.fd 2 ≠ s.fd 0

theorem Built.sound {plans : List StreamPlan} {stages : List Stage} {upstream : Option Nat}
    {w : World} (built : Built plans stages upstream w) (length : stages.length = plans.length) :
    SoundWiring plans stages w := by
  -- a pipe handed on is the next stage's input
  have handedOn : ∀ (i : Nat) s d, stages[i]? = some s → s.feeds = some d →
      ∃ t p, stages[i + 1]? = some t ∧ plans[i + 1]? = some p ∧ p.readsPipelineInput = true ∧
        t.fd 0 = d := by
    intro i s d found fed
    obtain ⟨p, planned, reads⟩ := built.feeds i s d found fed
    have next : i + 1 < stages.length := length ▸ (List.getElem?_eq_some_iff.1 planned).1
    have nextFound := List.getElem?_eq_getElem next
    exact ⟨_, p, nextFound, planned, reads, built.linked i s _ d found nextFound fed⟩
  refine ⟨length, built.shaped, ?_, handedOn, fun i s found more => built.live i s found (length ▸ more),
    built.closed⟩
  intro i s plan found planned slot fd mem unnamed
  have reader := built.lands i s plan found planned slot fd mem unnamed
  simp only [Stage.readers, List.append_assoc, List.mem_append, Option.mem_toList] at reader
  -- read from the pipe handed on, or from the record
  have consumed : s.fd fd ∈ consumers stages := by
    rcases reader with fed | kept
    · obtain ⟨t, -, nextFound, -, -, input⟩ := handedOn i s _ found fed
      exact mem_consumers.2 ⟨t, List.mem_of_getElem? nextFound, .inl input.symm⟩
    · exact mem_consumers.2 ⟨s, List.mem_of_getElem? found, .inr (List.mem_append.2 kept)⟩
  exact ⟨List.count_eq_one_of_mem built.nodup consumed, reader.symm.imp List.mem_append.2 id⟩

theorem zipIdx_eq_append {α : Type} {xs : List α} {done rest : List (α × Nat)} {x : α} {k : Nat}
    (split : xs.zipIdx = done ++ (x, k) :: rest) : k = done.length ∧ xs[done.length]? = some x := by
  have found := congrArg (fun l => l[done.length]?) split
  simp only [List.getElem?_zipIdx, List.getElem?_append_right (Nat.le_refl _), Nat.sub_self,
    List.getElem?_cons_zero, Nat.zero_add, Option.map_eq_some_iff, Prod.mk.injEq] at found
  obtain ⟨a, found, rfl, rfl⟩ := found
  exact ⟨rfl, found⟩

theorem prepareStages_built {ctx : Context} {commands : List (SimpleCommand × String × StreamPlan)}
    (coherent : ∀ c ∈ commands, c.2.2.Coherent) {w w' : World} {stages : List Stage}
    {temps : List String}
    (ran : (prepareStages ctx commands).run.run w = (.ok (.ok (stages, temps)), w')) :
    stages.length = commands.length ∧ ∃ upstream, Built (commands.map (·.2.2)) stages upstream w' := by
  unfold prepareStages at ran
  obtain ⟨⟨upstream, built, made⟩, w₁, looped, ran⟩ := Engine.bind_ok ran
  obtain ⟨⟨⟩, rfl⟩ := Engine.pure_ok ran
  -- one stage per command so far, and the invariant
  have loop := Engine.forIn_ok
    (fun done (st : Option Nat × Array Stage × Array String) w =>
      st.2.1.size = done.length ∧ Built (commands.map (·.2.2)) st.2.1.toList st.1 w)
    ⟨rfl, Built.start _ _⟩ ?step looped
  · exact ⟨by simpa using loop.1, upstream, loop.2⟩
  case step =>
    rintro done ⟨⟨command, program, plan⟩, k⟩ rest ⟨upstream, built, made⟩ w₁ r w₂ split ⟨size, built⟩ ran
    obtain ⟨rfl, current⟩ := zipIdx_eq_append split
    dsimp only at size built ran
    obtain ⟨files, w₃, opened, ran⟩ := Engine.bind_ok ran
    replace opened := Engine.tryCatch_abandon_ok opened
    obtain ⟨⟨args, temps⟩, w₄, substituted, ran⟩ := Engine.bind_ok ran
    -- the files are opened, then the arguments leave the table alone
    have opened' : files.length = plan.files.length ∧ w₁.Extends w₄ ∧
        ∀ d ∈ files, w₁.table.size ≤ d ∧ d < w₄.table.size ∧ ¬ w₄.IsPipe d := by
      have kept := (substituteNullArgs_keepsTable ctx _).table_eq (Engine.lift_ok substituted)
      obtain ⟨length, grows, facts⟩ := mapM_openTarget_ok opened
      refine ⟨length, grows.trans (.of_table kept), fun d mem => ?_⟩
      simpa [World.IsPipe, kept] using facts d mem
    -- the input: a new pipe, the pipe handed on, or a file
    generalize handed : upstream = up at ran
    rcases inputSlot : plan.input with st | idx <;> simp only [inputSlot] at ran
    on_goal 1 => rcases up with _ | d <;> dsimp only at ran
    all_goals obtain ⟨input, w₅, chose, ran⟩ := Engine.bind_ok ran
    on_goal 1 =>
      have chosen : InputChosen plan files upstream w₄ input w₅ := by
        have made := Engine.lift_ok chose
        rw [Sys.newPipe_run] at made
        obtain ⟨rfl, rfl⟩ := made
        simp [InputChosen, inputSlot, handed]
    on_goal 2 =>
      have chosen : InputChosen plan files upstream w₄ input w₅ := by
        obtain ⟨rfl, rfl⟩ := Engine.pure_ok chose
        simp [InputChosen, inputSlot, handed]
    on_goal 3 =>
      have chosen : InputChosen plan files upstream w₄ input w₅ := by
        obtain ⟨rfl, rfl⟩ := Engine.pure_ok chose
        simp [InputChosen, inputSlot]
    all_goals
      obtain ⟨wr, w₆, wiredRun, ran⟩ := Engine.bind_ok ran
      have wired := wireOutputs_wired (fun last => by rw [last]; rfl) (Engine.lift_ok wiredRun)
    -- what is handed on next: the wiring's pipe when the next stage reads
    all_goals simp only [pure_bind] at ran
    all_goals split at ran
    all_goals rename_i handing
    all_goals
      obtain ⟨placed, w₇, placedRun, ran⟩ := Engine.bind_ok ran
      have kept₇ := (workingPlace_keepsTable ctx).table_eq (Engine.lift_ok placedRun)
    -- a process that cannot start stops the setup: in a working directory that is not there, or
    -- for a program that cannot be run
    all_goals
      split at ran
      on_goal 2 =>
        obtain ⟨_, _, gaveUp, -⟩ := Engine.bind_ok ran
        exact (Engine.abandon_ok gaveUp).elim
    all_goals
      obtain ⟨t, w₉, treeRun, ran⟩ := Engine.bind_ok ran
      have kept₉ := Sys.KeepsTable.tree.table_eq (Engine.lift_ok treeRun)
    all_goals
      split at ran
      on_goal 1 =>
        obtain ⟨_, _, gaveUp, -⟩ := Engine.bind_ok ran
        exact (Engine.abandon_ok gaveUp).elim
    all_goals
      obtain ⟨pid, w₁₀, pidRun, ran⟩ := Engine.bind_ok ran
      have kept₁₀ := Sys.KeepsTable.newPid.table_eq (Engine.lift_ok pidRun)
      obtain ⟨rfl, rfl⟩ := Engine.pure_ok ran
    all_goals
      refine ⟨_, rfl, by simp [size], ?_⟩
      rw [Array.toList_push]
      refine built.push (by simp [size, current]) (by simp [size]) (by simp [size])
        (stagePrepared (coherent _ (List.mem_of_getElem? current)) opened' chosen wired
          (kept₁₀.trans (kept₉.trans kept₇)) rfl ⟨rfl, rfl⟩
          (by first | exact (if_pos handing).symm | exact (if_neg handing).symm)) rfl

/-- The streams of a pipeline whose plans redirections gave, once its stages are set up: every
output or errors stream not sent to a file is read exactly once, by the next stage when that stage
reads pipeline input and is handed the pipe, or else by the parent from the stage's record; a
stage before the last has at most one pipe alive, the one it hands on; and a stage that reads
pipeline input but is handed nothing reads an empty pipe that no stage writes to. -/
theorem prepared_streams_wired (ctx : Context) (commands : List (SimpleCommand × String × StreamPlan))
    (planned : ∀ c ∈ commands, ∃ rs, StreamPlan.ofRedirects rs = .ok c.2.2)
    {w w' : World} {stages : List Stage} {temps : List String}
    (prepared : (prepareStages ctx commands).run.run w = (.ok (.ok (stages, temps)), w')) :
    SoundWiring (commands.map (·.2.2)) stages w' := by
  have coherent : ∀ c ∈ commands, c.2.2.Coherent := by
    intro c mem
    obtain ⟨rs, made⟩ := planned c mem
    obtain ⟨-, folded, -⟩ := StreamPlan.ofRedirects_eq_ok made
    rw [folded]
    exact StreamPlan.coherent_default.foldl rs
  obtain ⟨length, upstream, built⟩ := prepareStages_built coherent prepared
  exact built.sound (by simpa using length)

/-- `t | t`: the first stage reads an empty pipe of its own and hands its output on through pipe 1,
its errors spill to a scratch file; the last stage reads pipe 1 and keeps both its pipes. -/
theorem prepared_streams_wired_pipe :
    (prepareStages ⟨"/", [("PATH", "/")], {}⟩
        [(⟨["t"], []⟩, "/t", {}), (⟨["t"], []⟩, "/t", {})]).run.run
        { tree := { entries := [(["t"], .program "true")] } } =
      (.ok (.ok ([
        { command := ⟨["t"], []⟩, program := "/t",
          proc := { argv := ["/t"], env := [("PATH", "/")], cwd := "/", here := [],
                    fds := [(0, 0), (1, 1), (2, 2)], pid := 4001 },
          keptOutput := [], keptErrors := [2], feeds := some 1 },
        { command := ⟨["t"], []⟩, program := "/t",
          proc := { argv := ["/t"], env := [("PATH", "/")], cwd := "/", here := [],
                    fds := [(0, 1), (1, 3), (2, 4)], pid := 4002 },
          keptOutput := [3], keptErrors := [4] }], [])),
        { tree := { entries := [(["t"], .program "true")] },
          table := #[{ backing := .pipe {}, readable := true, writable := true },
                     { backing := .pipe {}, readable := true, writable := true },
                     { backing := .scratch .empty, readable := true, writable := true },
                     { backing := .pipe {}, readable := true, writable := true },
                     { backing := .pipe {}, readable := true, writable := true }],
          lastPid := 4002 }) ∧
    SoundWiring [{}, {}]
      [{ command := ⟨["t"], []⟩, program := "/t",
         proc := { argv := ["/t"], env := [("PATH", "/")], cwd := "/", here := [],
                   fds := [(0, 0), (1, 1), (2, 2)], pid := 4001 },
         keptOutput := [], keptErrors := [2], feeds := some 1 },
       { command := ⟨["t"], []⟩, program := "/t",
         proc := { argv := ["/t"], env := [("PATH", "/")], cwd := "/", here := [],
                   fds := [(0, 1), (1, 3), (2, 4)], pid := 4002 },
         keptOutput := [3], keptErrors := [4] }]
      { tree := { entries := [(["t"], .program "true")] },
        table := #[{ backing := .pipe {}, readable := true, writable := true },
                   { backing := .pipe {}, readable := true, writable := true },
                   { backing := .scratch .empty, readable := true, writable := true },
                   { backing := .pipe {}, readable := true, writable := true },
                   { backing := .pipe {}, readable := true, writable := true }],
        lastPid := 4002 } := by
  have ran : (prepareStages ⟨"/", [("PATH", "/")], {}⟩
        [(⟨["t"], []⟩, "/t", {}), (⟨["t"], []⟩, "/t", {})]).run.run
        { tree := { entries := [(["t"], .program "true")] } } =
      (.ok (.ok ([
        { command := ⟨["t"], []⟩, program := "/t",
          proc := { argv := ["/t"], env := [("PATH", "/")], cwd := "/", here := [],
                    fds := [(0, 0), (1, 1), (2, 2)], pid := 4001 },
          keptOutput := [], keptErrors := [2], feeds := some 1 },
        { command := ⟨["t"], []⟩, program := "/t",
          proc := { argv := ["/t"], env := [("PATH", "/")], cwd := "/", here := [],
                    fds := [(0, 1), (1, 3), (2, 4)], pid := 4002 },
          keptOutput := [3], keptErrors := [4] }], [])),
        { tree := { entries := [(["t"], .program "true")] },
          table := #[{ backing := .pipe {}, readable := true, writable := true },
                     { backing := .pipe {}, readable := true, writable := true },
                     { backing := .scratch .empty, readable := true, writable := true },
                     { backing := .pipe {}, readable := true, writable := true },
                     { backing := .pipe {}, readable := true, writable := true }],
          lastPid := 4002 }) := by
    cbv
  refine ⟨ran, prepared_streams_wired _ _ (fun c mem => ⟨[], ?_⟩) ran⟩
  simp only [List.mem_cons, List.not_mem_nil, or_false] at mem
  rcases mem with rfl | rfl <;> rfl

end Pipework.Run
