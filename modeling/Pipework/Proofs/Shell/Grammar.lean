import Mathlib
import Pipework.Shell.Parser

/-! The grammar of script lines as relations between token kinds and command trees, and the shapes
of the trees the parser builds. -/

namespace Pipework.Shell

namespace CommandTree

/-- A tree leans left when the right side of every sequence is a pipeline: pipelines joined
one after another, as the parser and `chain` build them. -/
inductive LeftLeaning : CommandTree → Prop where
  | pipeline (p : Pipeline) : LeftLeaning (.pipeline p)
  | sequence {left : CommandTree} (op : SeqOp) (p : Pipeline) (leaning : LeftLeaning left) :
      LeftLeaning (.sequence left op (.pipeline p))

/-- The operators of a tree at every depth, left to right. -/
def operators : CommandTree → List SeqOp
  | .pipeline _ => []
  | .sequence left op right => left.operators ++ op :: right.operators

/-- The tree that starts with `first` and joins the pipeline of each link from the left with
the link's operator. -/
def ofSpine (first : Pipeline) (links : List (SeqOp × Pipeline)) : CommandTree :=
  links.foldl (fun tree link => .sequence tree link.1 (.pipeline link.2)) (.pipeline first)

@[simp] theorem ofSpine_nil (first : Pipeline) : ofSpine first [] = .pipeline first := rfl

@[simp] theorem ofSpine_append_singleton (first : Pipeline) (links : List (SeqOp × Pipeline))
    (link : SeqOp × Pipeline) :
    ofSpine first (links ++ [link]) = .sequence (ofSpine first links) link.1 (.pipeline link.2) := by
  simp [ofSpine]

theorem leftLeaning_ofSpine (first : Pipeline) (links : List (SeqOp × Pipeline)) :
    (ofSpine first links).LeftLeaning := by
  induction links using List.reverseRecOn with
  | nil => exact .pipeline first
  | append_singleton links link ih =>
    rw [ofSpine_append_singleton]
    exact .sequence link.1 link.2 ih

theorem LeftLeaning.eq_ofSpine {t : CommandTree} (leaning : t.LeftLeaning) :
    ∃ first links, t = ofSpine first links := by
  induction leaning with
  | pipeline p => exact ⟨p, [], rfl⟩
  | sequence op p _ ih =>
    obtain ⟨first, links, rfl⟩ := ih
    exact ⟨first, links ++ [(op, p)], (ofSpine_append_singleton first links (op, p)).symm⟩

theorem operators_ofSpine (first : Pipeline) (links : List (SeqOp × Pipeline)) :
    (ofSpine first links).operators = links.map Prod.fst := by
  induction links using List.reverseRecOn with
  | nil => rfl
  | append_singleton links link ih => simp [operators, ih]

end CommandTree

/-- A descriptor the lexer can read before a redirection operator: `&>` takes none, and a
descriptor is an unsigned 32-bit number. -/
def DescriptorFits (op : RedirectOp) (fd : Option Nat) : Prop :=
  (op = .both → fd = none) ∧ ∀ n, fd = some n → n ≤ maxDescriptor

/-- A token kind whose descriptor, if it has one, fits. -/
def TokenKind.Fits : TokenKind → Prop
  | .redirect op fd => DescriptorFits op fd
  | _ => True

/-- A command with its program, whose redirections' descriptors fit. -/
structure SimpleCommand.WellFormed (c : SimpleCommand) : Prop where
  program : c.args ≠ []
  redirects : ∀ r ∈ c.redirects, DescriptorFits r.op r.fd

/-- A pipeline of at least one well-formed command. -/
structure Pipeline.WellFormed (p : Pipeline) : Prop where
  nonempty : p.commands ≠ []
  commands : ∀ c ∈ p.commands, c.WellFormed

/-- The trees a script line can stand for: they lean left and all their pipelines are
well formed. -/
structure CommandTree.WellFormed (t : CommandTree) : Prop where
  leaning : t.LeftLeaning
  pipelines : ∀ p ∈ t.pipelines, p.WellFormed

/-- `CommandSyntax ks c`: the kinds `ks` spell the command `c` by
`word (word | '!' | redirection word)*`; a `!` after the program is the word `!`. -/
inductive CommandSyntax : List TokenKind → SimpleCommand → Prop where
  | program (w : String) : CommandSyntax [.word w] ⟨[w], []⟩
  | word {ks : List TokenKind} {c : SimpleCommand} (w : String) (prefix_ : CommandSyntax ks c) :
      CommandSyntax (ks ++ [.word w]) ⟨c.args ++ [w], c.redirects⟩
  | bang {ks : List TokenKind} {c : SimpleCommand} (prefix_ : CommandSyntax ks c) :
      CommandSyntax (ks ++ [.bang]) ⟨c.args ++ ["!"], c.redirects⟩
  | redirect {ks : List TokenKind} {c : SimpleCommand} (op : RedirectOp) (fd : Option Nat)
      (target : String) (prefix_ : CommandSyntax ks c) :
      CommandSyntax (ks ++ [.redirect op fd, .word target]) ⟨c.args, c.redirects ++ [⟨op, fd, target⟩]⟩

/-- `StagesSyntax ks cs`: the kinds `ks` spell the commands `cs` by `command ('|' command)*`. -/
inductive StagesSyntax : List TokenKind → List SimpleCommand → Prop where
  | first {ks : List TokenKind} {c : SimpleCommand} (command : CommandSyntax ks c) :
      StagesSyntax ks [c]
  | pipe {ks ks' : List TokenKind} {cs : List SimpleCommand} {c : SimpleCommand}
      (stages : StagesSyntax ks cs) (command : CommandSyntax ks' c) :
      StagesSyntax (ks ++ .pipe :: ks') (cs ++ [c])

/-- `PipelineSyntax pipeFail ks p`: the kinds `ks` spell `p` by `'!'? command ('|' command)*`;
the pipeline fails as `pipeFail` says and is negated exactly when it starts with `!`. -/
inductive PipelineSyntax (pipeFail : Bool) : List TokenKind → Pipeline → Prop where
  | plain {ks : List TokenKind} {cs : List SimpleCommand} (stages : StagesSyntax ks cs) :
      PipelineSyntax pipeFail ks ⟨cs, pipeFail, false⟩
  | negated {ks : List TokenKind} {cs : List SimpleCommand} (stages : StagesSyntax ks cs) :
      PipelineSyntax pipeFail (.bang :: ks) ⟨cs, pipeFail, true⟩

/-- `LineSyntax pipeFail ks t`: the kinds `ks` spell `t` by
`pipeline (('&&' | '||' | ';' | '&') pipeline)*`, the pipelines joined from the left. -/
inductive LineSyntax (pipeFail : Bool) : List TokenKind → CommandTree → Prop where
  | pipeline {ks : List TokenKind} {p : Pipeline} (pipeline : PipelineSyntax pipeFail ks p) :
      LineSyntax pipeFail ks (.pipeline p)
  | sequence {ks ks' : List TokenKind} {t : CommandTree} {k : TokenKind} {op : SeqOp}
      {p : Pipeline} (left : LineSyntax pipeFail ks t) (joins : k.seqOp? = some op)
      (right : PipelineSyntax pipeFail ks' p) :
      LineSyntax pipeFail (ks ++ k :: ks') (.sequence t op (.pipeline p))

/-! ### What a derivation determines -/

theorem CommandSyntax.head {ks : List TokenKind} {c : SimpleCommand} (command : CommandSyntax ks c) :
    ∃ w rest, ks = .word w :: rest := by
  induction command with
  | program w => exact ⟨w, [], rfl⟩
  | word _ _ ih | bang _ ih | redirect _ _ _ _ ih =>
    obtain ⟨w, rest, rfl⟩ := ih
    exact ⟨w, _, rfl⟩

theorem CommandSyntax.args_ne_nil {ks : List TokenKind} {c : SimpleCommand}
    (command : CommandSyntax ks c) : c.args ≠ [] := by
  induction command with
  | program w => simp
  | word w _ _ | bang _ _ => simp
  | redirect _ _ _ _ ih => exact ih

theorem CommandSyntax.not_separator {ks : List TokenKind} {c : SimpleCommand}
    (command : CommandSyntax ks c) : ∀ k ∈ ks, k ≠ .pipe ∧ k.isSequenceOperator = false := by
  induction command with
  | program w => simp [TokenKind.isSequenceOperator]
  | word _ _ ih | bang _ ih | redirect _ _ _ _ ih =>
    rw [List.forall_mem_append]
    exact ⟨ih, by simp [TokenKind.isSequenceOperator]⟩

theorem CommandSyntax.countP_sequenceOperator {ks : List TokenKind} {c : SimpleCommand}
    (command : CommandSyntax ks c) : ks.countP TokenKind.isSequenceOperator = 0 :=
  List.countP_eq_zero.mpr fun k member => by simp [(command.not_separator k member).2]

theorem CommandSyntax.count_pipe {ks : List TokenKind} {c : SimpleCommand}
    (command : CommandSyntax ks c) : ks.count .pipe = 0 :=
  List.count_eq_zero.mpr fun member => (command.not_separator _ member).1 rfl

theorem CommandSyntax.fits {ks : List TokenKind} {c : SimpleCommand} (command : CommandSyntax ks c)
    (fits : ∀ k ∈ ks, k.Fits) : ∀ r ∈ c.redirects, DescriptorFits r.op r.fd := by
  induction command with
  | program w => simp
  | word w _ ih | bang _ ih =>
    exact ih fun k member => fits k (List.mem_append_left _ member)
  | redirect op fd target _ ih =>
    intro r member
    rcases List.mem_append.mp member with old | new
    · exact ih (fun k member => fits k (List.mem_append_left _ member)) r old
    · have fitting := fits (.redirect op fd) (by simp)
      simp only [List.mem_singleton] at new
      subst new
      exact fitting

theorem StagesSyntax.countP_sequenceOperator {ks : List TokenKind} {cs : List SimpleCommand}
    (stages : StagesSyntax ks cs) : ks.countP TokenKind.isSequenceOperator = 0 := by
  induction stages with
  | first command => exact command.countP_sequenceOperator
  | pipe _ command ih =>
    simp [List.countP_append, ih, command.countP_sequenceOperator, TokenKind.isSequenceOperator]

theorem StagesSyntax.length_eq {ks : List TokenKind} {cs : List SimpleCommand}
    (stages : StagesSyntax ks cs) : cs.length = ks.count .pipe + 1 := by
  induction stages with
  | first command => simp [command.count_pipe]
  | pipe _ command ih => simp [List.count_append, ih, command.count_pipe]

theorem StagesSyntax.wellFormed {ks : List TokenKind} {cs : List SimpleCommand}
    (stages : StagesSyntax ks cs) (fits : ∀ k ∈ ks, k.Fits) : ∀ c ∈ cs, c.WellFormed := by
  induction stages with
  | first command => simpa using ⟨command.args_ne_nil, command.fits fits⟩
  | pipe _ command ih =>
    intro c member
    rcases List.mem_append.mp member with old | new
    · exact ih (fun k member => fits k (List.mem_append_left _ member)) c old
    · simp only [List.mem_singleton] at new
      subst new
      exact ⟨command.args_ne_nil,
        command.fits fun k member => fits k (List.mem_append_right _ (List.mem_cons_of_mem _ member))⟩

theorem PipelineSyntax.counts {pipeFail : Bool} {ks : List TokenKind} {p : Pipeline}
    (pipeline : PipelineSyntax pipeFail ks p) :
    ks.countP TokenKind.isSequenceOperator = 0 ∧ p.commands.length = ks.count .pipe + 1 := by
  cases pipeline with
  | plain stages => exact ⟨stages.countP_sequenceOperator, stages.length_eq⟩
  | negated stages =>
    refine ⟨?_, ?_⟩
    · simp [stages.countP_sequenceOperator, TokenKind.isSequenceOperator]
    · simp [stages.length_eq]

theorem PipelineSyntax.wellFormed {pipeFail : Bool} {ks : List TokenKind} {p : Pipeline}
    (pipeline : PipelineSyntax pipeFail ks p) (fits : ∀ k ∈ ks, k.Fits) : p.WellFormed := by
  cases pipeline with
  | plain stages =>
    exact ⟨by simp [← List.length_pos_iff, stages.length_eq], stages.wellFormed fits⟩
  | negated stages =>
    exact ⟨by simp [← List.length_pos_iff, stages.length_eq],
      stages.wellFormed fun k member => fits k (List.mem_cons_of_mem _ member)⟩

theorem LineSyntax.leftLeaning {pipeFail : Bool} {ks : List TokenKind} {t : CommandTree}
    (line : LineSyntax pipeFail ks t) : t.LeftLeaning := by
  induction line with
  | pipeline _ => exact .pipeline _
  | sequence _ _ _ ih => exact .sequence _ _ ih

theorem LineSyntax.wellFormed {pipeFail : Bool} {ks : List TokenKind} {t : CommandTree}
    (line : LineSyntax pipeFail ks t) (fits : ∀ k ∈ ks, k.Fits) : t.WellFormed := by
  refine ⟨line.leftLeaning, ?_⟩
  induction line with
  | pipeline pipeline =>
    simpa [CommandTree.pipelines] using pipeline.wellFormed fits
  | sequence _ _ right ih =>
    intro p member
    simp only [CommandTree.pipelines, List.mem_append, List.mem_singleton] at member
    rcases member with old | new
    · exact ih (fun k member => fits k (List.mem_append_left _ member)) p old
    · subst new
      exact right.wellFormed fun k member =>
        fits k (List.mem_append_right _ (List.mem_cons_of_mem _ member))

/-- A derived tree has one pipeline more than sequencing operators, and one command more
than pipes in each pipeline. -/
theorem LineSyntax.counts {pipeFail : Bool} {ks : List TokenKind} {t : CommandTree}
    (line : LineSyntax pipeFail ks t) :
    t.pipelines.length = ks.countP TokenKind.isSequenceOperator + 1 ∧
      t.simpleCommandCount = t.pipelines.length + ks.count .pipe := by
  induction line with
  | pipeline pipeline =>
    obtain ⟨noOperator, length⟩ := pipeline.counts
    simp [CommandTree.pipelines, CommandTree.simpleCommandCount, noOperator, length]
    omega
  | @sequence ks ks' t k op p _ joins right ih =>
    obtain ⟨noOperator, length⟩ := right.counts
    have operator : k.isSequenceOperator = true := (TokenKind.isSequenceOperator_iff k).mpr (by simp [joins])
    have notPipe : k ≠ .pipe := by rintro rfl; simp [TokenKind.isSequenceOperator] at operator
    obtain ⟨leftPipelines, leftCommands⟩ := ih
    simp only [List.length_append, List.countP_append, List.countP_cons, List.count_append,
      List.count_cons, operator, noOperator, leftPipelines, leftCommands, CommandTree.pipelines,
      CommandTree.simpleCommandCount, length, beq_iff_eq, notPipe]
    simp
    omega

end Pipework.Shell
