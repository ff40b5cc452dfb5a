import Mathlib
import Pipework.Run.TestFile

/-! The lines of a test file's script are trimmed. -/

namespace Pipework.Run

open Pipework.Text

/-- No blank at either end of a line. -/
def Trimmed (s : List Char) : Prop :=
  (∀ c ∈ s.head?, isBlank c = false) ∧ ∀ c ∈ s.getLast?, isBlank c = false

instance : DecidablePred Trimmed := fun _ => inferInstanceAs (Decidable (_ ∧ _))

/-- A trimmed line, or one blank before a non-empty trimmed line. -/
def Shaped (s : List Char) : Prop :=
  Trimmed s ∨ ∃ t, s = ' ' :: t ∧ t ≠ [] ∧ Trimmed t

theorem trimmed_nil : Trimmed [] := ⟨by simp, by simp⟩

theorem toList_trimBlank (s : String) :
    (trimBlank s).toList = (s.toList.dropWhile isBlank).rdropWhile isBlank := by
  simp [trimBlank, List.rdropWhile]

theorem toList_trimBlankEnd (s : String) :
    (trimBlankEnd s).toList = s.toList.rdropWhile isBlank := by
  simp [trimBlankEnd, List.rdropWhile]

theorem mem_head?_of_starts {u l : List Char} (pre : u <+: l) {c : Char} (first : c ∈ u.head?) :
    c ∈ l.head? := by
  obtain ⟨t, rfl⟩ := pre
  cases u with
  | nil => simp at first
  | cons d u => simpa using first

theorem last_rdropWhile {l : List Char} {c : Char} (last : c ∈ (l.rdropWhile isBlank).getLast?) :
    isBlank c = false := by
  have ne : l.rdropWhile isBlank ≠ [] := by rintro h; simp [h] at last
  rw [List.getLast?_eq_some_getLast ne, Option.mem_def, Option.some_inj] at last
  simpa [← last] using List.rdropWhile_last_not isBlank l ne

/-- A prefix of a line, less its final blanks, keeps the line's first character and ends in one
that is not blank. -/
theorem trimmed_rdropWhile_of_starts {u l : List Char} (lead : ∀ c ∈ l.head?, isBlank c = false)
    (pre : u <+: l) : Trimmed (u.rdropWhile isBlank) :=
  ⟨fun c first => lead c (mem_head?_of_starts ((List.rdropWhile_prefix isBlank u).trans pre) first),
    fun _ last => last_rdropWhile last⟩

theorem trimmed_trimBlank (s : String) : Trimmed (trimBlank s).toList := by
  rw [toList_trimBlank]
  refine trimmed_rdropWhile_of_starts (fun c first => ?_) (List.prefix_refl _)
  have lead := List.head?_dropWhile_not isBlank s.toList
  rw [Option.mem_def.1 first] at lead
  exact lead

theorem trimmed_append_blank {t c : List Char} (ht : Trimmed t) (tne : t ≠ []) (hc : Trimmed c)
    (cne : c ≠ []) : Trimmed (t ++ ' ' :: c) := by
  obtain ⟨y, t', rfl⟩ := List.exists_cons_of_ne_nil tne
  obtain ⟨z, c', rfl⟩ := List.exists_cons_of_ne_nil cne
  constructor
  · intro x first
    exact ht.1 x (by simpa using first)
  · intro x last
    rw [List.getLast?_append_of_ne_nil _ (List.cons_ne_nil _ _), List.getLast?_cons_cons] at last
    exact hc.2 x last

/-- Joining a non-empty trimmed content to a shaped head with a blank gives a shaped line: the
blank stands first only when the head was empty or already started with it. -/
theorem Shaped.join {h c : List Char} (shaped : Shaped h) (hc : Trimmed c) (cne : c ≠ []) :
    Shaped (h ++ ' ' :: c) := by
  rcases shaped with trimmed | ⟨t, rfl, tne, ht⟩
  · cases h with
    | nil => exact .inr ⟨c, rfl, cne, hc⟩
    | cons x h => exact .inl (trimmed_append_blank trimmed (List.cons_ne_nil _ _) hc cne)
  · exact .inr ⟨t ++ ' ' :: c, rfl, by simp, trimmed_append_blank ht tne hc cne⟩

theorem Shaped.cut {l : List Char} (shaped : Shaped l) :
    Shaped (l.dropLast.rdropWhile isBlank) := by
  rcases shaped with trimmed | ⟨t, rfl, tne, ht⟩
  · exact .inl (trimmed_rdropWhile_of_starts trimmed.1 (List.dropLast_prefix l))
  · -- what is left is a prefix of the line; its leading blank stays only before more text
    generalize cut : (' ' :: t).dropLast.rdropWhile isBlank = u
    have pre : u <+: ' ' :: t :=
      cut ▸ (List.rdropWhile_prefix isBlank _).trans (List.dropLast_prefix _)
    cases u with
    | nil => exact .inl trimmed_nil
    | cons x v =>
      obtain ⟨rfl, inner⟩ : x = ' ' ∧ v <+: t := by simpa using pre
      have last : ∀ c ∈ (' ' :: v).getLast?, isBlank c = false := fun c mem =>
        last_rdropWhile (cut ▸ mem)
      have vne : v ≠ [] := by
        rintro rfl
        exact absurd (last ' ' rfl) (by decide)
      refine .inr ⟨v, rfl, vne, fun c first => ht.1 c (mem_head?_of_starts inner first), ?_⟩
      intro c mem
      obtain ⟨y, v', rfl⟩ := List.exists_cons_of_ne_nil vne
      exact last c (by simpa using mem)

/-- What the fold over `RUN:` contents keeps: non-empty shaped lines, and a shaped pending head. -/
def Pending (acc : List String × Option String) : Prop :=
  (∀ line ∈ acc.1, line ≠ "" ∧ Shaped line.toList) ∧ ∀ head ∈ acc.2, Shaped head.toList

theorem shaped_joinPending {pending : Option String} {content : String}
    (head : ∀ h ∈ pending, Shaped h.toList) (trimmed : Trimmed content.toList) :
    Shaped (joinPending pending content).toList := by
  cases pending with
  | none => exact .inl trimmed
  | some h =>
    by_cases empty : content.isEmpty
    · simpa [joinPending, empty] using head h rfl
    · simpa [joinPending, empty] using (head h rfl).join trimmed (by simpa using empty)

theorem Pending.addRunLine {acc : List String × Option String} {content : String}
    (inv : Pending acc) (trimmed : Trimmed content.toList) : Pending (addRunLine acc content) := by
  obtain ⟨lines, pending⟩ := acc
  obtain ⟨done, head⟩ := inv
  have shaped := shaped_joinPending head trimmed
  simp only [Run.addRunLine]
  generalize joinPending pending content = line at shaped
  by_cases continued : line.toList.getLast? = some '\\'
  · rw [if_pos continued]
    exact ⟨done, by simpa [toList_trimBlankEnd] using shaped.cut⟩
  rw [if_neg continued]
  by_cases empty : line.isEmpty
  · rw [if_pos empty]
    exact ⟨done, by simp⟩
  rw [if_neg empty]
  refine ⟨fun l mem => ?_, by simp⟩
  rcases List.mem_append.1 mem with old | new
  · exact done l old
  · obtain rfl := List.mem_singleton.1 new
    exact ⟨by simpa using empty, shaped⟩

theorem Pending.foldl {contents : List String} (trimmed : ∀ c ∈ contents, Trimmed c.toList) :
    ∀ {acc : List String × Option String}, Pending acc →
      Pending (contents.foldl Run.addRunLine acc) := by
  induction contents with
  | nil => exact id
  | cons c rest ih =>
    intro acc inv
    exact ih (fun c' mem => trimmed c' (List.mem_cons_of_mem c mem))
      (inv.addRunLine (trimmed c List.mem_cons_self))

/-- Every script line is non-empty and trimmed, but for one blank before a trimmed line in a
file with `RUN:` markers. -/
theorem scriptLines_shaped (text : String) :
    ∀ line ∈ scriptLines text, line ≠ "" ∧
      (Trimmed line.toList ∨ occursIn runMarker text = true ∧
        ∃ rest, line.toList = ' ' :: rest ∧ rest ≠ [] ∧ Trimmed rest) := by
  unfold scriptLines
  by_cases marked : occursIn runMarker text = true
  · rw [if_neg (by simp [marked])]
    have contents : ∀ c ∈ (textLines text).filterMap
        (fun raw => (afterMarker runMarker raw).map trimBlank), Trimmed c.toList := by
      intro c mem
      obtain ⟨raw, -, found⟩ := List.mem_filterMap.1 mem
      obtain ⟨after, -, rfl⟩ := Option.map_eq_some_iff.1 found
      exact trimmed_trimBlank after
    have start : Pending (([] : List String), (none : Option String)) := ⟨by simp, by simp⟩
    obtain ⟨done, head⟩ := Pending.foldl contents start
    dsimp only
    generalize List.foldl addRunLine ([], none) _ = acc at done head
    obtain ⟨lines, pending⟩ := acc
    dsimp only at done head ⊢
    have spaced : ∀ line : String, line ≠ "" → Shaped line.toList → line ≠ "" ∧
        (Trimmed line.toList ∨ occursIn runMarker text = true ∧
          ∃ rest, line.toList = ' ' :: rest ∧ rest ≠ [] ∧ Trimmed rest) :=
      fun line nonempty shaped => ⟨nonempty, shaped.imp_right fun spaced => ⟨marked, spaced⟩⟩
    intro line mem
    cases pending with
    | none => exact spaced line (done line mem).1 (done line mem).2
    | some h =>
      dsimp only at mem
      by_cases empty : h.isEmpty
      · rw [if_pos empty] at mem
        exact spaced line (done line mem).1 (done line mem).2
      · rw [if_neg empty] at mem
        rcases List.mem_append.1 mem with old | new
        · exact spaced line (done line old).1 (done line old).2
        · obtain rfl := List.mem_singleton.1 new
          exact spaced line (by simpa using empty) (head line rfl)
  · rw [if_pos (by simpa using marked)]
    intro line mem
    obtain ⟨⟨raw, -, rfl⟩, kept⟩ := List.mem_filter.1 mem |>.imp_left List.mem_map.1
    refine ⟨fun empty => ?_, .inl (trimmed_trimBlank raw)⟩
    simp [empty] at kept

/-- Joined to the empty head a `RUN:` line with only a backslash leaves, `x` becomes ` x`: one
blank before a trimmed line. -/
theorem scriptLines_shaped_spaced :
    " x" ∈ scriptLines "RUN: \\\nRUN: x\n" ∧ " x" ≠ "" ∧
      (Trimmed " x".toList ∨ occursIn runMarker "RUN: \\\nRUN: x\n" = true ∧
        ∃ rest, " x".toList = ' ' :: rest ∧ rest ≠ [] ∧ Trimmed rest) :=
  have mem : " x" ∈ scriptLines "RUN: \\\nRUN: x\n" := by decide
  ⟨mem, scriptLines_shaped _ _ mem⟩

/-- A `RUN:` line with only a backslash leaves an empty head, and the next content is joined to
it after a blank: the script line ` x` starts with that blank. -/
theorem continued_empty_head_keeps_blank :
    scriptLines "RUN: \\\nRUN: x\n" = [" x"] ∧ ¬Trimmed " x".toList :=
  ⟨by decide, by simp [Trimmed, isBlank]⟩

end Pipework.Run
