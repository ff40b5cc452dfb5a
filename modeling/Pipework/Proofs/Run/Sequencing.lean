import Pipework.Proofs.Shell.Parsing
import Pipework.Run.Strategy

/-! Running a command tree that leans left is the flat loop of a shell: one status register, and the
pipelines run one after another as their operators allow. -/

namespace Pipework.Shell

/-- Whether the pipeline after an operator runs when the status so far is `status`: always after
`;`, after success after `&&`, after anything else after `||`. `&` runs nothing here. -/
def SeqOp.runsAfter : SeqOp → Option Int → Bool
  | .semi, _ => true
  | .and, status => status == some 0
  | .or, status => status != some 0
  | .background, _ => false

end Pipework.Shell

namespace Pipework.Run

open Pipework.Host Pipework.Shell

/-- What running part of a tree leaves: the records so far, and the status or the error. -/
abbrev Outcome := Array Record × Except ExecError (Option Int)

/-- What follows the left side of an operator: an error stops the run; otherwise the right side
runs when the operator allows, and the status stays when it is skipped. -/
def proceed (ctx : Context) (op : SeqOp) (right : CommandTree) : Outcome → Sys Outcome
  | (acc, .error e) => pure (acc, .error e)
  | (acc, .ok status) =>
    if op.runsAfter status then runTree ctx right acc else pure (acc, .ok status)

/-- The flat loop: run the first pipeline, then each link's pipeline as its operator allows. -/
def runChain (ctx : Context) (first : Pipeline) (links : List (SeqOp × Pipeline))
    (acc : Array Record) : Sys Outcome := do
  links.foldlM (fun outcome link => proceed ctx link.1 (.pipeline link.2) outcome)
    (← runTree ctx (.pipeline first) acc)

theorem runTree_sequence (ctx : Context) {left right : CommandTree} {op : SeqOp}
    (notBackground : op ≠ .background) (acc : Array Record) :
    runTree ctx (.sequence left op right) acc = runTree ctx left acc >>= proceed ctx op right := by
  cases op with
  | background => exact absurd rfl notBackground
  | semi =>
    simp only [runTree]
    congr 1
    funext ⟨acc', r⟩
    cases r with
    | error e => simp [proceed]
    | ok status => simp [proceed, SeqOp.runsAfter]
  | and =>
    simp only [runTree]
    congr 1
    funext ⟨acc', r⟩
    cases r with
    | error e => simp [proceed]
    | ok status => split <;> simp_all [proceed, SeqOp.runsAfter]
  | or =>
    simp only [runTree]
    congr 1
    funext ⟨acc', r⟩
    cases r with
    | error e => simp [proceed]
    | ok status => split <;> simp_all [proceed, SeqOp.runsAfter]

theorem foldlM_proceed_error (ctx : Context) (links : List (SeqOp × Pipeline))
    (acc : Array Record) (e : ExecError) :
    links.foldlM (fun outcome link => proceed ctx link.1 (.pipeline link.2) outcome)
      (acc, .error e) = pure (acc, .error e) := by
  induction links with
  | nil => rfl
  | cons link links ih =>
    rw [List.foldlM_cons]
    exact (pure_bind _ _).trans ih

/-- A chain with no `&` runs as the flat loop: the tree's recursion over its left spine is the
loop over its links. -/
theorem runTree_ofSpine (ctx : Context) (first : Pipeline) (links : List (SeqOp × Pipeline))
    (noBackground : ∀ link ∈ links, link.1 ≠ .background) (acc : Array Record) :
    runTree ctx (CommandTree.ofSpine first links) acc = runChain ctx first links acc := by
  induction links using List.reverseRecOn with
  | nil => simp [runChain]
  | append_singleton links link ih =>
    have notBackground := noBackground link (by simp)
    have earlier := ih fun l mem => noBackground l (by simp [mem])
    rw [CommandTree.ofSpine_append_singleton, runTree_sequence ctx notBackground, earlier]
    simp [runChain, List.foldlM_append]

/-- `&` on the spine of a tree: the run is refused before any pipeline runs, with the records
and the machine as they were. -/
theorem runTree_background_of_leftLeaning (ctx : Context) {t : CommandTree}
    (leaning : t.LeftLeaning) (background : .background ∈ t.operators) (acc : Array Record) :
    runTree ctx t acc = pure (acc, .error (.unsupported "shell operator '&'")) := by
  induction leaning with
  | pipeline p => simp [CommandTree.operators] at background
  | @sequence left op p _ ih =>
    by_cases here : op = .background
    · subst here
      simp [runTree]
    · -- the `&` is further left, and the refusal passes through this operator
      have further : SeqOp.background ∈ left.operators := by
        simpa [CommandTree.operators, Ne.symm here] using background
      rw [runTree_sequence ctx here, ih further]
      simp [proceed]

/-- A tree that leans left and has no `&` runs as the flat loop of a shell over its pipelines
`P₁ … Pₖ` and operators: `P₁` runs, then each later pipeline runs exactly when its operator
allows it under the status so far, the records pile up in the order the pipelines ran, and once
a run stops with an error nothing after it runs. -/
theorem runTree_refines_flat_loop (ctx : Context) {t : CommandTree} (leaning : t.LeftLeaning)
    (noBackground : SeqOp.background ∉ t.operators) (acc : Array Record) :
    ∃ first links, t = CommandTree.ofSpine first links ∧
      runTree ctx t acc = runChain ctx first links acc ∧
      ∀ (acc' : Array Record) (e : ExecError),
        links.foldlM (fun outcome link => proceed ctx link.1 (.pipeline link.2) outcome)
          (acc', .error e) = pure (acc', .error e) := by
  obtain ⟨first, links, rfl⟩ := leaning.eq_ofSpine
  have linksFree : ∀ link ∈ links, link.1 ≠ .background := by
    intro link mem same
    apply noBackground
    rw [CommandTree.operators_ofSpine, ← same]
    exact List.mem_map_of_mem mem
  exact ⟨first, links, rfl, runTree_ofSpine ctx first links linksFree acc,
    foldlM_proceed_error ctx links⟩

/-- `false && echo a || echo b ; echo c` runs as the flat loop over its four pipelines. -/
theorem runTree_refines_flat_loop_chain :
    (CommandTree.ofSpine ⟨[⟨["false"], []⟩], false, false⟩
        [(.and, ⟨[⟨["echo", "a"], []⟩], false, false⟩),
          (.or, ⟨[⟨["echo", "b"], []⟩], false, false⟩),
          (.semi, ⟨[⟨["echo", "c"], []⟩], false, false⟩)]).LeftLeaning ∧
    SeqOp.background ∉ (CommandTree.ofSpine ⟨[⟨["false"], []⟩], false, false⟩
        [(.and, ⟨[⟨["echo", "a"], []⟩], false, false⟩),
          (.or, ⟨[⟨["echo", "b"], []⟩], false, false⟩),
          (.semi, ⟨[⟨["echo", "c"], []⟩], false, false⟩)]).operators ∧
    ∃ first links, CommandTree.ofSpine ⟨[⟨["false"], []⟩], false, false⟩
        [(.and, ⟨[⟨["echo", "a"], []⟩], false, false⟩),
          (.or, ⟨[⟨["echo", "b"], []⟩], false, false⟩),
          (.semi, ⟨[⟨["echo", "c"], []⟩], false, false⟩)] = CommandTree.ofSpine first links ∧
      runTree ⟨"/", [], {}⟩ (CommandTree.ofSpine ⟨[⟨["false"], []⟩], false, false⟩
        [(.and, ⟨[⟨["echo", "a"], []⟩], false, false⟩),
          (.or, ⟨[⟨["echo", "b"], []⟩], false, false⟩),
          (.semi, ⟨[⟨["echo", "c"], []⟩], false, false⟩)]) #[] =
        runChain ⟨"/", [], {}⟩ first links #[] ∧
      ∀ (acc' : Array Record) (e : ExecError),
        links.foldlM (fun outcome link => proceed ⟨"/", [], {}⟩ link.1 (.pipeline link.2) outcome)
          (acc', .error e) = pure (acc', .error e) := by
  refine ⟨?leaning, ?free, runTree_refines_flat_loop ⟨"/", [], {}⟩ ?leaning ?free #[]⟩
  case leaning => exact CommandTree.leftLeaning_ofSpine _ _
  case free => simp [CommandTree.operators_ofSpine]

/-- `&` anywhere in a parsed line, or on the spine of any tree that leans left: the run is
refused before any pipeline runs, with the records and the machine as they were. -/
theorem background_refused_before_running (ctx : Context) (acc : Array Record) :
    (∀ t : CommandTree, t.LeftLeaning → SeqOp.background ∈ t.operators →
      runTree ctx t acc = pure (acc, .error (.unsupported "shell operator '&'"))) ∧
    (∀ (line : String) (pipeFail win32 : Bool) (t : CommandTree),
      parse line pipeFail win32 = .ok t → SeqOp.background ∈ t.operators →
        runTree ctx t acc = pure (acc, .error (.unsupported "shell operator '&'"))) := by
  refine ⟨fun t leaning background =>
      runTree_background_of_leftLeaning ctx leaning background acc,
    fun line pipeFail win32 t parsed background => ?_⟩
  obtain ⟨ts, -, derived⟩ := parse_eq_ok_iff.1 parsed
  exact runTree_background_of_leftLeaning ctx derived.leftLeaning background acc

/-- `touch marker & true` is refused before `touch` runs. -/
theorem background_refused_touch_marker :
    parse "touch marker & true" false = .ok (.sequence
      (.pipeline ⟨[⟨["touch", "marker"], []⟩], false, false⟩) .background
      (.pipeline ⟨[⟨["true"], []⟩], false, false⟩)) ∧
    SeqOp.background ∈ (CommandTree.sequence
      (.pipeline ⟨[⟨["touch", "marker"], []⟩], false, false⟩) .background
      (.pipeline ⟨[⟨["true"], []⟩], false, false⟩)).operators ∧
    runTree ⟨"/", [], {}⟩ (.sequence
      (.pipeline ⟨[⟨["touch", "marker"], []⟩], false, false⟩) .background
      (.pipeline ⟨[⟨["true"], []⟩], false, false⟩)) #[] =
      pure (#[], .error (.unsupported "shell operator '&'")) := by
  refine ⟨?parsed, ?background,
    (background_refused_before_running ⟨"/", [], {}⟩ #[]).2 _ false false _ ?parsed ?background⟩
  case parsed => cbv
  case background => simp [CommandTree.operators]

end Pipework.Run
