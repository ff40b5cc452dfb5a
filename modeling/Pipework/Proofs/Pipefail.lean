import Pipework.Run.ExitCode

/-! The code a pipeline reports. -/

namespace Pipework.Run

/-- Whether code `a` reports a failure at least as strongly as code `b`: a signal death
outranks every exit status, of two signal deaths the more negative one, of two exit statuses
the higher one. -/
def outranks (a b : Int) : Bool :=
  if b < 0 then a < 0 && a ≤ b else a < 0 || b ≤ a

theorem outranks_antisymm {a b : Int} (hab : outranks a b = true) (hba : outranks b a = true) :
    a = b := by
  unfold outranks at hab hba
  by_cases hb : b < 0 <;> by_cases ha : a < 0 <;> simp_all <;> omega

theorem foldExitCodes_of_min? {codes : List Int} {s : Int}
    (h : (codes.filter (· < 0)).min? = some s) : foldExitCodes codes true = s := by
  simp [foldExitCodes, h]

theorem foldExitCodes_of_no_signal {codes : List Int} (h : (codes.filter (· < 0)).min? = none) :
    foldExitCodes codes true = codes.max?.getD 0 := by
  simp [foldExitCodes, h]

theorem nonneg_of_filter_eq_nil {codes : List Int} (h : codes.filter (· < 0) = [])
    {c : Int} (hc : c ∈ codes) : ¬ c < 0 := by
  intro hneg
  have : c ∈ codes.filter (· < 0) := List.mem_filter.mpr ⟨hc, by simpa using hneg⟩
  simp [h] at this

theorem foldExitCodes_mem {codes : List Int} (hne : codes ≠ []) :
    foldExitCodes codes true ∈ codes := by
  cases hs : (codes.filter (· < 0)).min? with
  | some s =>
    rw [foldExitCodes_of_min? hs]
    exact (List.mem_filter.mp (List.min?_mem hs)).1
  | none =>
    rw [foldExitCodes_of_no_signal hs]
    cases hm : codes.max? with
    | none => exact absurd (List.max?_eq_none_iff.mp hm) hne
    | some m => simpa using List.max?_mem hm

theorem outranks_foldExitCodes {codes : List Int} {c : Int} (hc : c ∈ codes) :
    outranks (foldExitCodes codes true) c = true := by
  cases hs : (codes.filter (· < 0)).min? with
  | some s =>
    rw [foldExitCodes_of_min? hs]
    obtain ⟨hsmem, hsle⟩ := List.min?_eq_some_iff.mp hs
    have hsneg : s < 0 := by simpa using (List.mem_filter.mp hsmem).2
    unfold outranks
    by_cases hcn : c < 0
    · have hle := hsle c (List.mem_filter.mpr ⟨hc, by simpa using hcn⟩)
      simp [hcn, hsneg, hle]
    · simp [hcn, hsneg]
  | none =>
    rw [foldExitCodes_of_no_signal hs]
    have hcn := nonneg_of_filter_eq_nil (List.min?_eq_none_iff.mp hs) hc
    cases hm : codes.max? with
    | none => simp [List.max?_eq_none_iff.mp hm] at hc
    | some m =>
      have hle := (List.max?_eq_some_iff.mp hm).2 c hc
      unfold outranks
      simp [hcn, hle]

theorem eq_foldExitCodes_of_outranks {codes : List Int} {a : Int} (ha : a ∈ codes)
    (hall : ∀ c ∈ codes, outranks a c = true) : a = foldExitCodes codes true := by
  have hne : codes ≠ [] := List.ne_nil_of_mem ha
  exact outranks_antisymm (hall _ (foldExitCodes_mem hne)) (outranks_foldExitCodes ha)

theorem foldExitCodes_perm {codes other : List Int} (hp : other.Perm codes) (hne : codes ≠ []) :
    foldExitCodes other true = foldExitCodes codes true := by
  have hne' : other ≠ [] := fun h => hne (List.Perm.eq_nil (h ▸ hp.symm))
  apply eq_foldExitCodes_of_outranks
  · exact hp.mem_iff.mp (foldExitCodes_mem hne')
  · intro c hc
    exact outranks_foldExitCodes (hp.mem_iff.mpr hc)

theorem foldExitCodes_eq_zero_iff {codes : List Int} (hne : codes ≠ []) :
    foldExitCodes codes true = 0 ↔ ∀ c ∈ codes, c = 0 := by
  constructor
  · intro h c hc
    have hc' := outranks_foldExitCodes hc
    rw [h] at hc'
    unfold outranks at hc'
    by_cases hcn : c < 0
    · simp [hcn] at hc'
    · simp [hcn] at hc'
      omega
  · intro hall
    exact hall _ (foldExitCodes_mem hne)

theorem foldExitCodes_false {codes : List Int} (hne : codes ≠ []) :
    foldExitCodes codes false = codes.getLast hne := by
  simp [foldExitCodes, List.getLastD_eq_getLast?, List.getLast?_eq_some_getLast hne]

theorem negateExitCode_eq (c : Int) : negateExitCode c = if c = 0 then 1 else 0 := by
  unfold negateExitCode
  by_cases h : c = 0 <;> simp [h]

/-- A pipeline's code: with pipefail the dominant code of its commands (one of them, outranking
all of them, the same for every order of them, and zero exactly when all are zero), without it
the last code; and a negated code is 1 for success and 0 for any failure. -/
theorem foldExitCodes_dominant (codes : List Int) (hne : codes ≠ []) :
    foldExitCodes codes true ∈ codes ∧
    (∀ c ∈ codes, outranks (foldExitCodes codes true) c = true) ∧
    (∀ other : List Int, other.Perm codes → foldExitCodes other true = foldExitCodes codes true) ∧
    (foldExitCodes codes true = 0 ↔ ∀ c ∈ codes, c = 0) ∧
    foldExitCodes codes false = codes.getLast hne ∧
    (∀ c : Int, negateExitCode c = if c = 0 then 1 else 0) :=
  ⟨foldExitCodes_mem hne, fun _ hc => outranks_foldExitCodes hc,
    fun _ hp => foldExitCodes_perm hp hne, foldExitCodes_eq_zero_iff hne, foldExitCodes_false hne,
    negateExitCode_eq⟩

/-- The statement at a pipeline of a success, a failure and two signal deaths, which reports
the signal death of the higher signal number. -/
theorem foldExitCodes_dominant_sample :
    ([0, 3, -9, -2] : List Int) ≠ [] ∧
    (foldExitCodes [0, 3, -9, -2] true ∈ ([0, 3, -9, -2] : List Int) ∧
    (∀ c ∈ ([0, 3, -9, -2] : List Int), outranks (foldExitCodes [0, 3, -9, -2] true) c = true) ∧
    (∀ other : List Int, other.Perm [0, 3, -9, -2] →
      foldExitCodes other true = foldExitCodes [0, 3, -9, -2] true) ∧
    (foldExitCodes [0, 3, -9, -2] true = 0 ↔ ∀ c ∈ ([0, 3, -9, -2] : List Int), c = 0) ∧
    foldExitCodes [0, 3, -9, -2] false = ([0, 3, -9, -2] : List Int).getLast (by decide) ∧
    (∀ c : Int, negateExitCode c = if c = 0 then 1 else 0)) :=
  ⟨by decide, foldExitCodes_dominant [0, 3, -9, -2] (by decide)⟩

end Pipework.Run
