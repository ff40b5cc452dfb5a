import Mathlib
import Pipework.Run.StreamPlan

/-! How a list of redirections becomes a stream plan. -/

namespace Pipework.Run

open Pipework.Shell

theorem Stream.ofTarget?_isSome_iff (t : String) :
    (Stream.ofTarget? t).isSome ↔ t ∈ ["0", "1", "2"] := by
  unfold Stream.ofTarget?
  split <;> simp_all

namespace StreamPlan

/-! ### What one redirection does -/

/-- The redirections a plan accepts: `>` and `>>` with no descriptor, 1 or 2; `<` with no
descriptor or 0; `2>&N` onto 0, 1 or 2; `>&` with no descriptor onto anything else; `&>` with no
descriptor. -/
def Accepts (r : Redirect) : Prop :=
  (r.op = .output ∨ r.op = .append) ∧ (r.fd = none ∨ r.fd = some 1 ∨ r.fd = some 2) ∨
  r.op = .input ∧ (r.fd = none ∨ r.fd = some 0) ∨
  r.op = .dupOutput ∧ r.fd = some 2 ∧ r.target ∈ ["0", "1", "2"] ∨
  r.op = .dupOutput ∧ r.fd = none ∧ r.target ∉ ["0", "1", "2"] ∨
  r.op = .both ∧ r.fd = none

instance : DecidablePred Accepts := fun _ => inferInstanceAs (Decidable (_ ∨ _))

/-- The file an accepted redirection opens: every one but `2>&N` opens its target, `<` to read,
`>>` to append and the others to truncate. -/
def opened (r : Redirect) : Option FileTarget :=
  match r.op with
  | .input => some ⟨r.target, .read⟩
  | .output | .both => some ⟨r.target, .truncate⟩
  | .append => some ⟨r.target, .append⟩
  | .dupOutput => if r.fd == none then some ⟨r.target, .truncate⟩ else none
  | .dupInput => none

/-- Whether an accepted redirection points a stream at the file it opens: `<` the input,
`>` and `>>` the output (descriptor 2: the errors), `&>` and `>&file` both output and errors. -/
def points (r : Redirect) : Stream → Bool
  | .input => r.op == .input
  | .output => (r.op == .output || r.op == .append) && r.fd != some 2 || r.op == .both ||
      r.op == .dupOutput && r.fd == none
  | .error => (r.op == .output || r.op == .append) && r.fd == some 2 || r.op == .both ||
      r.op == .dupOutput && r.fd == none

/-- The stream whose slot `2>&N` copies onto the errors. -/
def copySource (r : Redirect) : Option Stream :=
  if r.op == .dupOutput && r.fd == some 2 then Stream.ofTarget? r.target else none

/-- Whether a redirection changes where a stream goes. -/
def touches (r : Redirect) (s : Stream) : Bool :=
  points r s || s == .error && (copySource r).isSome

/-- An accepted redirection, stream by stream: the file it opens is added at the end, each
stream it points goes to that file, and `2>&N` sends the errors where `N` goes now. -/
def step (q : StreamPlan) (r : Redirect) : StreamPlan where
  input := if points r .input then .file q.files.length else q.input
  output := if points r .output then .file q.files.length else q.output
  error :=
    if points r .error then .file q.files.length
    else match copySource r with
      | some s => q.slotOf s
      | none => q.error
  files := q.files ++ (opened r).toList

@[simp] theorem step_files (q : StreamPlan) (r : Redirect) :
    (q.step r).files = q.files ++ (opened r).toList := rfl

theorem slotOf_step (q : StreamPlan) (r : Redirect) (s : Stream) :
    (q.step r).slotOf s =
      if points r s then .file q.files.length
      else if s = Stream.error then
        match copySource r with
        | some s' => q.slotOf s'
        | none => q.slotOf s
      else q.slotOf s := by
  cases s <;> rfl

theorem slotOf_step_untouched {q : StreamPlan} {r : Redirect} {s : Stream}
    (untouched : touches r s = false) : (q.step r).slotOf s = q.slotOf s := by
  simp only [touches, Bool.or_eq_false_iff, Bool.and_eq_false_iff, beq_eq_false_iff_ne, ne_eq,
    Option.isSome_eq_false_iff, Option.isNone_iff_eq_none] at untouched
  obtain ⟨notPointed, notCopied⟩ := untouched
  rw [slotOf_step, if_neg (by simpa using notPointed)]
  split
  · next errors =>
    rcases notCopied with notErrors | none_eq
    · exact absurd errors notErrors
    · rw [none_eq]
  · rfl

theorem points_error_of_copySource {r : Redirect} {source : Stream}
    (copies : copySource r = some source) : points r .error = false := by
  obtain ⟨op, fd, target⟩ := r
  unfold copySource at copies
  split at copies
  · next dup =>
    simp only [Bool.and_eq_true, beq_iff_eq] at dup
    obtain ⟨rfl, rfl⟩ := dup
    rfl
  · cases copies

/-! ### `apply` is the step on what it accepts -/

theorem apply_of_accepts (q : StreamPlan) {r : Redirect} (accepted : Accepts r) :
    q.apply r = .ok (q.step r) := by
  obtain ⟨op, fd, target⟩ := r
  simp only [Accepts] at accepted
  rcases accepted with ⟨ops, fds⟩ | ⟨rfl, fds⟩ | ⟨rfl, rfl, named⟩ | ⟨rfl, rfl, unnamed⟩ | ⟨rfl, rfl⟩
  · -- `>` and `>>` open their file whatever the target
    rcases ops with rfl | rfl <;> rcases fds with rfl | rfl | rfl <;> rfl
  · -- so does `<`
    rcases fds with rfl | rfl <;> rfl
  · -- `2>&N` copies the slot of the stream it names
    simp only [List.mem_cons, List.not_mem_nil, or_false] at named
    rcases named with rfl | rfl | rfl <;> simp [apply, step, points, opened, copySource, Stream.ofTarget?]
  · -- `>&file` opens a file for both output and errors
    have none_eq : Stream.ofTarget? target = none := by
      simpa [Option.isSome_iff_ne_none] using mt (Stream.ofTarget?_isSome_iff target).1 unnamed
    simp [apply, step, points, opened, none_eq, StreamPlan.openFile]
  · -- and so does `&>`
    rfl

theorem apply_of_not_accepts (q : StreamPlan) {r : Redirect} (refused : ¬ Accepts r) :
    q.apply r = .error (.unsupportedRedirect r.display) := by
  obtain ⟨op, fd, target⟩ := r
  have named := Stream.ofTarget?_isSome_iff target
  simp only [Accepts, not_or, not_and] at refused
  unfold apply
  rcases source : Stream.ofTarget? target with _ | s
  · simp only [source, Option.isSome_none, Bool.false_eq_true, false_iff] at named
    split <;> simp_all
  · simp only [source, Option.isSome_some, true_iff] at named
    split <;> simp_all

/-! ### Files and slots of a plan -/

theorem points_opened {r : Redirect} {s : Stream} (pointed : points r s = true) :
    ∃ f, opened r = some f := by
  obtain ⟨op, fd, target⟩ := r
  cases s <;> cases op <;> simp_all [points, opened]

theorem points_output_writes {r : Redirect} (pointed : points r .output = true) :
    (opened r).map FileTarget.mode ≠ some .read := by
  obtain ⟨op, fd, target⟩ := r
  cases op <;> simp_all [points, opened]

/-- What every plan built by steps keeps: each file slot names a file of the plan, and the
output does not go to a file opened for reading. -/
structure Coherent (q : StreamPlan) : Prop where
  indexed : ∀ s i, q.slotOf s = .file i → i < q.files.length
  outputWrites : q.modeOf q.output ≠ some .read

theorem coherent_default : Coherent {} where
  indexed s i slot := by cases s <;> cases slot
  outputWrites := by simp [modeOf]

theorem modeOf_append {q : StreamPlan} (slot : Slot) (named : ∀ i, slot = .file i → i < q.files.length)
    (more : List FileTarget) (q' : StreamPlan) (files_eq : q'.files = q.files ++ more) :
    q'.modeOf slot = q.modeOf slot := by
  cases slot with
  | default s => rfl
  | file i => simp [modeOf, files_eq, List.getElem?_append_left (named i rfl)]

theorem Coherent.step {q : StreamPlan} (coherent : q.Coherent) (r : Redirect) :
    (q.step r).Coherent where
  indexed s i slot := by
    rw [slotOf_step] at slot
    simp only [step_files, List.length_append]
    split at slot
    · next pointed =>
      -- the new slot names the file the redirection opens
      obtain ⟨f, opens⟩ := points_opened pointed
      cases slot
      simp [opens]
    · split at slot
      · split at slot
        · exact Nat.lt_add_right _ (coherent.indexed _ i slot)
        · exact Nat.lt_add_right _ (coherent.indexed s i slot)
      · exact Nat.lt_add_right _ (coherent.indexed s i slot)
  outputWrites := by
    show (q.step r).modeOf (if points r .output then .file q.files.length else q.output) ≠ _
    split
    · next pointed =>
      obtain ⟨f, opens⟩ := points_opened pointed
      have writes := points_output_writes pointed
      rw [opens] at writes
      simpa [modeOf, opens] using writes
    · rw [modeOf_append q.output (coherent.indexed .output) (opened r).toList (q.step r) rfl]
      exact coherent.outputWrites

theorem Coherent.foldl {q : StreamPlan} (coherent : q.Coherent) :
    ∀ rs : List Redirect, (rs.foldl StreamPlan.step q).Coherent
  | [] => coherent
  | r :: rs => (coherent.step r).foldl rs

theorem files_foldl_step (q : StreamPlan) :
    ∀ rs : List Redirect, (rs.foldl step q).files = q.files ++ rs.filterMap opened
  | [] => by simp
  | r :: rs => by
    rw [List.foldl_cons, files_foldl_step (q.step r) rs, step_files, List.filterMap_cons]
    cases opened r <;> simp

theorem slotOf_foldl_untouched {s : Stream} :
    ∀ {rs : List Redirect} (q : StreamPlan), (∀ r ∈ rs, touches r s = false) →
      (rs.foldl step q).slotOf s = q.slotOf s
  | [], _, _ => rfl
  | r :: rs, q, untouched => by
    rw [List.foldl_cons, slotOf_foldl_untouched (q.step r)
      (fun r' mem => untouched r' (List.mem_cons_of_mem r mem)),
      slotOf_step_untouched (untouched r List.mem_cons_self)]

theorem slotOf_foldl_last {s : Stream} (q : StreamPlan) (pre : List Redirect) (r : Redirect)
    {post : List Redirect} (untouched : ∀ r' ∈ post, touches r' s = false) :
    ((pre ++ r :: post).foldl step q).slotOf s = ((pre.foldl step q).step r).slotOf s := by
  rw [List.foldl_append, List.foldl_cons, slotOf_foldl_untouched _ untouched]

/-! ### The plan of a list -/

theorem foldlM_apply_of_accepts :
    ∀ {rs : List Redirect} (q : StreamPlan), (∀ r ∈ rs, Accepts r) →
      rs.foldlM apply q = .ok (rs.foldl step q)
  | [], _, _ => rfl
  | r :: rs, q, accepted => by
    rw [List.foldlM_cons, apply_of_accepts q (accepted r List.mem_cons_self)]
    exact foldlM_apply_of_accepts (q.step r) fun r' mem => accepted r' (List.mem_cons_of_mem r mem)

theorem foldlM_apply_of_refused (q : StreamPlan) {pre : List Redirect} {r : Redirect}
    (post : List Redirect) (accepted : ∀ r' ∈ pre, Accepts r') (refused : ¬ Accepts r) :
    (pre ++ r :: post).foldlM apply q = .error (.unsupportedRedirect r.display) := by
  rw [List.foldlM_append, foldlM_apply_of_accepts q accepted]
  show (r :: post).foldlM apply (pre.foldl step q) = _
  rw [List.foldlM_cons, apply_of_not_accepts _ refused]
  rfl

theorem foldlM_apply_eq_ok :
    ∀ {rs : List Redirect} {q q' : StreamPlan}, rs.foldlM apply q = .ok q' →
      (∀ r ∈ rs, Accepts r) ∧ q' = rs.foldl step q
  | [], _, _, applied => ⟨by simp, (Except.ok.inj applied).symm⟩
  | r :: rs, q, _, applied => by
    rw [List.foldlM_cons] at applied
    by_cases accepted : Accepts r
    · rw [apply_of_accepts q accepted] at applied
      obtain ⟨rest, rfl⟩ := foldlM_apply_eq_ok applied
      exact ⟨List.forall_mem_cons.2 ⟨accepted, rest⟩, rfl⟩
    · rw [apply_of_not_accepts q accepted] at applied
      cases applied

theorem accepts_or_first_refused (rs : List Redirect) :
    (∀ r ∈ rs, Accepts r) ∨
      ∃ pre r post, rs = pre ++ r :: post ∧ (∀ r' ∈ pre, Accepts r') ∧ ¬ Accepts r := by
  rcases found : rs.find? (fun r => !decide (Accepts r)) with _ | r
  · exact .inl fun r mem => by simpa using List.find?_eq_none.1 found r mem
  · obtain ⟨refused, pre, post, spelled, before⟩ := List.find?_eq_some_iff_append.1 found
    exact .inr ⟨pre, r, post, spelled, fun r' mem => by simpa using before r' mem,
      by simpa using refused⟩

/-! ### Validation -/

theorem validate_eq_ok {q q' : StreamPlan} :
    q.validate = .ok q' ↔
      q' = q ∧ q.modeOf q.output ≠ some .read ∧ q.error ≠ .default .input ∧
        q.modeOf q.error ≠ some .read := by
  unfold validate
  simp only [beq_iff_eq]
  split_ifs with output onInput reads
  · simp [output]
  · simp [onInput]
  · simp [reads]
  · constructor
    · intro same
      exact ⟨(Except.ok.inj same).symm, output, onInput, reads⟩
    · rintro ⟨rfl, -⟩
      rfl

theorem validate_error {q : StreamPlan} {e : ExecError} (refused : q.validate = .error e) :
    ∃ what, e = .unsupportedRedirect what := by
  unfold validate at refused
  split at refused
  · exact ⟨_, (Except.error.inj refused).symm⟩
  · split at refused
    · exact ⟨_, (Except.error.inj refused).symm⟩
    · split at refused
      · exact ⟨_, (Except.error.inj refused).symm⟩
      · cases refused

/-! ### The plan of a list of redirections -/

theorem ofRedirects_of_foldlM {rs : List Redirect} {q : StreamPlan}
    (applied : rs.foldlM apply {} = .ok q) : ofRedirects rs = q.validate := by
  unfold ofRedirects
  rw [applied]
  rfl

theorem ofRedirects_of_refused {pre : List Redirect} {r : Redirect} (post : List Redirect)
    (accepted : ∀ r' ∈ pre, Accepts r') (refused : ¬ Accepts r) :
    ofRedirects (pre ++ r :: post) = .error (.unsupportedRedirect r.display) := by
  unfold ofRedirects
  rw [foldlM_apply_of_refused {} post accepted refused]
  rfl

/-- The plan of a list: refused at its first redirection that is not accepted, or else the fold
of `step`, validated. -/
theorem ofRedirects_cases (rs : List Redirect) :
    (∃ pre r post, rs = pre ++ r :: post ∧ (∀ r' ∈ pre, Accepts r') ∧ ¬ Accepts r ∧
      ofRedirects rs = .error (.unsupportedRedirect r.display)) ∨
    ((∀ r ∈ rs, Accepts r) ∧ rs.foldlM apply {} = .ok (rs.foldl step {}) ∧
      ofRedirects rs = (rs.foldl step {}).validate) := by
  rcases accepts_or_first_refused rs with accepted | ⟨pre, r, post, rfl, accepted, refused⟩
  · have applied := foldlM_apply_of_accepts {} accepted
    exact .inr ⟨accepted, applied, ofRedirects_of_foldlM applied⟩
  · exact .inl ⟨pre, r, post, rfl, accepted, refused, ofRedirects_of_refused post accepted refused⟩

theorem ofRedirects_eq_ok {rs : List Redirect} {p : StreamPlan} (planned : ofRedirects rs = .ok p) :
    (∀ r ∈ rs, Accepts r) ∧ p = rs.foldl step {} ∧ p.error ≠ .default .input := by
  rcases ofRedirects_cases rs with ⟨_, _, _, _, _, _, refused⟩ | ⟨accepted, _, validated⟩
  · rw [refused] at planned
    cases planned
  · rw [validated] at planned
    obtain ⟨rfl, -, onInput, -⟩ := validate_eq_ok.1 planned
    exact ⟨accepted, rfl, onInput⟩

theorem slotOf_default (s : Stream) : ({} : StreamPlan).slotOf s = .default s := by
  cases s <;> rfl

theorem slotOf_foldl_points {s : Stream} (pre : List Redirect) {r : Redirect} {post : List Redirect}
    (pointed : points r s = true) (untouched : ∀ r' ∈ post, touches r' s = false) :
    ((pre ++ r :: post).foldl step {}).slotOf s = .file (pre.filterMap opened).length := by
  rw [slotOf_foldl_last {} pre r untouched, slotOf_step, if_pos pointed, files_foldl_step]
  rfl

/-- Where the last redirection that touches the errors leaves them when it is `2>&N`: where `N`
went before it. -/
theorem slotOf_foldl_copy (pre : List Redirect) {r : Redirect} {post : List Redirect}
    {source : Stream} (copies : copySource r = some source)
    (untouched : ∀ r' ∈ post, touches r' .error = false) :
    ((pre ++ r :: post).foldl step {}).error = (pre.foldl step {}).slotOf source := by
  show ((pre ++ r :: post).foldl step {}).slotOf .error = _
  rw [slotOf_foldl_last {} pre r untouched, slotOf_step,
    if_neg (by simp [points_error_of_copySource copies]), if_pos rfl, copies]

end StreamPlan

/-- Redirections are applied in order: the last one that touches a stream decides where it goes,
and `2>&N` copies the slot that `N` has at that point. A list is refused exactly when one of its
redirections is not accepted, the refusal naming the first such one, or when its errors end up
on the input or on a file opened for reading; its output never reads from a file. A plan that is
given opens one file for each redirection that opens one, in order, every file slot names one of
its files, and its errors are not on the input. -/
theorem ofRedirects_in_order (rs : List Redirect) :
    ((∃ e, StreamPlan.ofRedirects rs = .error e) ↔
      (∃ r ∈ rs, ¬ StreamPlan.Accepts r) ∨
        ∃ q, rs.foldlM StreamPlan.apply {} = .ok q ∧
          (q.error = .default .input ∨ q.modeOf q.error = some .read)) ∧
    (∀ e, StreamPlan.ofRedirects rs = .error e → ∃ what, e = .unsupportedRedirect what) ∧
    (∀ pre r post, rs = pre ++ r :: post → (∀ r' ∈ pre, StreamPlan.Accepts r') →
      ¬ StreamPlan.Accepts r → StreamPlan.ofRedirects rs = .error (.unsupportedRedirect r.display)) ∧
    (∀ q, rs.foldlM StreamPlan.apply {} = .ok q → q.modeOf q.output ≠ some .read) ∧
    ∀ p, StreamPlan.ofRedirects rs = .ok p →
      p.files = rs.filterMap StreamPlan.opened ∧
      (∀ s, (∀ r ∈ rs, StreamPlan.touches r s = false) → p.slotOf s = .default s) ∧
      (∀ s pre r post, rs = pre ++ r :: post → StreamPlan.points r s = true →
        (∀ r' ∈ post, StreamPlan.touches r' s = false) →
        p.slotOf s = .file (pre.filterMap StreamPlan.opened).length) ∧
      (∀ pre r post source q, rs = pre ++ r :: post → StreamPlan.copySource r = some source →
        (∀ r' ∈ post, StreamPlan.touches r' .error = false) →
        pre.foldlM StreamPlan.apply {} = .ok q → p.error = q.slotOf source) ∧
      (∀ s i, p.slotOf s = .file i → i < p.files.length) ∧
      p.error ≠ .default .input := by
  have coherent := StreamPlan.coherent_default.foldl rs
  refine ⟨⟨?refusedOnly, ?refusedIf⟩, ?named, ?first, ?outputWrites, ?given⟩
  case refusedOnly =>
    rintro ⟨e, refused⟩
    rcases StreamPlan.ofRedirects_cases rs with ⟨pre, r, post, rfl, -, rejected, -⟩ |
        ⟨-, applied, validated⟩
    · exact .inl ⟨r, by simp, rejected⟩
    -- every redirection accepted: validation refused the plan
    · refine .inr ⟨_, applied, ?_⟩
      rw [validated] at refused
      by_contra passes
      obtain ⟨onInput, reads⟩ := not_or.1 passes
      have valid := StreamPlan.validate_eq_ok.2 ⟨rfl, coherent.outputWrites, onInput, reads⟩
      rw [valid] at refused
      cases refused
  case refusedIf =>
    rintro (⟨r, mem, rejected⟩ | ⟨q, applied, misplaced⟩)
    · rcases StreamPlan.ofRedirects_cases rs with ⟨_, _, _, _, _, _, refused⟩ | ⟨accepted, -, -⟩
      · exact ⟨_, refused⟩
      · exact absurd (accepted r mem) rejected
    · rw [StreamPlan.ofRedirects_of_foldlM applied]
      rcases validated : q.validate with e | p
      · exact ⟨e, rfl⟩
      · obtain ⟨-, -, onInput, reads⟩ := StreamPlan.validate_eq_ok.1 validated
        exact absurd misplaced (not_or.2 ⟨onInput, reads⟩)
  case named =>
    intro e refused
    rcases StreamPlan.ofRedirects_cases rs with ⟨_, _, _, _, _, _, rejected⟩ | ⟨-, -, validated⟩
    · rw [rejected] at refused
      exact ⟨_, (Except.error.inj refused).symm⟩
    · rw [validated] at refused
      exact StreamPlan.validate_error refused
  case first =>
    rintro pre r post rfl accepted rejected
    exact StreamPlan.ofRedirects_of_refused post accepted rejected
  case outputWrites =>
    intro q applied
    obtain ⟨-, rfl⟩ := StreamPlan.foldlM_apply_eq_ok applied
    exact coherent.outputWrites
  case given =>
    intro p planned
    obtain ⟨-, rfl, onInput⟩ := StreamPlan.ofRedirects_eq_ok planned
    refine ⟨by simp [StreamPlan.files_foldl_step], fun s untouched => ?_,
      fun s pre r post spelled pointed untouched => ?_,
      fun pre r post source q spelled copies untouched applied => ?_, coherent.indexed, onInput⟩
    · rw [StreamPlan.slotOf_foldl_untouched {} untouched, StreamPlan.slotOf_default]
    · subst spelled
      exact StreamPlan.slotOf_foldl_points pre pointed untouched
    · subst spelled
      obtain ⟨-, rfl⟩ := StreamPlan.foldlM_apply_eq_ok applied
      exact StreamPlan.slotOf_foldl_copy pre copies untouched

/-- `2>&1 > f`: the errors take the output's slot before the output goes to the file, so they
stay on the output's pipe while the output goes to `f`. -/
theorem ofRedirects_in_order_errors_before_file :
    StreamPlan.ofRedirects [⟨.dupOutput, some 2, "1"⟩, ⟨.output, none, "f"⟩] =
        .ok { output := .file 0, error := .default .output, files := [⟨"f", .truncate⟩] } ∧
      ({ output := .file 0, error := .default .output, files := [⟨"f", .truncate⟩] } : StreamPlan).error =
        ({} : StreamPlan).slotOf .output := by
  have planned : StreamPlan.ofRedirects [⟨.dupOutput, some 2, "1"⟩, ⟨.output, none, "f"⟩] =
      .ok { output := .file 0, error := .default .output, files := [⟨"f", .truncate⟩] } := rfl
  exact ⟨planned, ((ofRedirects_in_order _).2.2.2.2 _ planned).2.2.2.1 [] ⟨.dupOutput, some 2, "1"⟩
    [⟨.output, none, "f"⟩] .output {} rfl rfl (by decide) rfl⟩

end Pipework.Run
