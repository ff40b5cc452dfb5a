import Pipework.Proofs.Shell.Grammar

/-! The parser against the grammar. -/

namespace Pipework.Shell

variable {pipeFail : Bool}

/-! ### The run, one token at a time -/

theorem parseTokens_cons_of_step {e e' : Expect} {d d' : Draft} {t : Token} (ts : List Token)
    (stepped : step pipeFail e d t.kind = .ok (e', d')) :
    parseTokens pipeFail e d (t :: ts) = parseTokens pipeFail e' d' ts := by
  simp [parseTokens, stepped]

theorem parseTokens_cons_of_refused {e : Expect} {d : Draft} {t : Token} (ts : List Token)
    {wanted : Wanted} (refused : step pipeFail e d t.kind = .error wanted) :
    parseTokens pipeFail e d (t :: ts) = .error (.unexpectedToken t.kind wanted t.span) := by
  simp [parseTokens, refused]

theorem eq_tree_of_finish {e : Expect} {d : Draft} {t : CommandTree}
    (finished : finish pipeFail e d = .ok t) : e = .more ∧ t = d.tree pipeFail := by
  cases e with
  | pipeline => cases joined : d.joined <;> simp [finish, joined] at finished
  | program => simp [finish] at finished
  | more =>
    simp only [finish, Except.ok.injEq] at finished
    exact ⟨rfl, finished.symm⟩
  | target => simp [finish] at finished

theorem step_ne_sequenceOperator (e : Expect) (d : Draft) (k : TokenKind) :
    step pipeFail e d k ≠ .error .sequenceOperator := by
  cases e <;> cases k <;> simp [step, TokenKind.seqOp?]

/-! ### Soundness: what the kinds read so far are -/

/-- The kinds before the pipeline under way: none, or a derived tree and the operator that
joins it to what follows. -/
def Joined (pipeFail : Bool) : Option (CommandTree × SeqOp) → List TokenKind → Prop
  | none, ks => ks = []
  | some (t, op), ks => ∃ ks₀ k, LineSyntax pipeFail ks₀ t ∧ k.seqOp? = some op ∧ ks = ks₀ ++ [k]

/-- The kinds of a pipeline's negation mark and of its finished commands, each command
followed by its pipe. -/
def Opened (negate : Bool) (commands : List SimpleCommand) (ks : List TokenKind) : Prop :=
  ∃ rest, ks = (if negate then [.bang] else []) ++ rest ∧
    (commands = [] ∧ rest = [] ∨ ∃ sks, StagesSyntax sks commands ∧ rest = sks ++ [.pipe])

/-- `Reads pipeFail e d pre`: the kinds `pre` read so far have led the machine to state `e`
with draft `d`. -/
def Reads (pipeFail : Bool) : Expect → Draft → List TokenKind → Prop
  | .pipeline, d, pre => d.negate = false ∧ d.commands = [] ∧ d.args = [] ∧ d.redirects = [] ∧
      Joined pipeFail d.joined pre
  | .program, d, pre => d.args = [] ∧ d.redirects = [] ∧
      ∃ jks oks, Joined pipeFail d.joined jks ∧ Opened d.negate d.commands oks ∧ pre = jks ++ oks
  | .more, d, pre => ∃ jks oks cks, Joined pipeFail d.joined jks ∧
      Opened d.negate d.commands oks ∧ CommandSyntax cks d.command ∧ pre = jks ++ oks ++ cks
  | .target op fd, d, pre => ∃ jks oks cks, Joined pipeFail d.joined jks ∧
      Opened d.negate d.commands oks ∧ CommandSyntax cks d.command ∧
      pre = jks ++ oks ++ cks ++ [.redirect op fd]

theorem reads_start : Reads pipeFail .pipeline {} [] := ⟨rfl, rfl, rfl, rfl, rfl⟩

theorem Opened.pipeline {negate : Bool} {commands : List SimpleCommand} {oks cks : List TokenKind}
    {c : SimpleCommand} (opened : Opened negate commands oks) (command : CommandSyntax cks c) :
    PipelineSyntax pipeFail (oks ++ cks) ⟨commands ++ [c], pipeFail, negate⟩ := by
  obtain ⟨rest, rfl, ⟨rfl, rfl⟩ | ⟨sks, stages, rfl⟩⟩ := opened
  · have single : StagesSyntax cks [c] := .first command
    cases negate
    · simpa using (PipelineSyntax.plain single : PipelineSyntax pipeFail _ _)
    · simpa using (PipelineSyntax.negated single : PipelineSyntax pipeFail _ _)
  · have piped : StagesSyntax (sks ++ .pipe :: cks) (commands ++ [c]) := .pipe stages command
    cases negate
    · simpa using (PipelineSyntax.plain piped : PipelineSyntax pipeFail _ _)
    · simpa using (PipelineSyntax.negated piped : PipelineSyntax pipeFail _ _)

theorem Opened.push {negate : Bool} {commands : List SimpleCommand} {oks cks : List TokenKind}
    {c : SimpleCommand} (opened : Opened negate commands oks) (command : CommandSyntax cks c) :
    Opened negate (commands ++ [c]) (oks ++ cks ++ [.pipe]) := by
  obtain ⟨rest, rfl, ⟨rfl, rfl⟩ | ⟨sks, stages, rfl⟩⟩ := opened
  · exact ⟨cks ++ [.pipe], by simp, .inr ⟨cks, .first command, rfl⟩⟩
  · exact ⟨sks ++ .pipe :: cks ++ [.pipe], by simp, .inr ⟨_, .pipe stages command, rfl⟩⟩

theorem Joined.tree {d : Draft} {jks pks : List TokenKind} (joined : Joined pipeFail d.joined jks)
    (pipeline : PipelineSyntax pipeFail pks (d.pipeline pipeFail)) :
    LineSyntax pipeFail (jks ++ pks) (d.tree pipeFail) := by
  unfold Draft.tree
  cases found : d.joined with
  | none =>
    rw [found] at joined
    subst joined
    exact .pipeline pipeline
  | some entry =>
    obtain ⟨t, op⟩ := entry
    rw [found] at joined
    obtain ⟨ks₀, k, line, joins, rfl⟩ := joined
    simpa using LineSyntax.sequence line joins pipeline

theorem Reads.tree {d : Draft} {pre : List TokenKind} (reads : Reads pipeFail .more d pre) :
    LineSyntax pipeFail pre (d.tree pipeFail) := by
  obtain ⟨jks, oks, cks, joined, opened, command, rfl⟩ := reads
  have pipeline : PipelineSyntax pipeFail (oks ++ cks) (d.pipeline pipeFail) :=
    opened.pipeline command
  simpa using joined.tree pipeline

theorem Reads.step_pipeline {d d' : Draft} {e' : Expect} {pre : List TokenKind} {k : TokenKind}
    (reads : Reads pipeFail .pipeline d pre) (stepped : step pipeFail .pipeline d k = .ok (e', d')) :
    Reads pipeFail e' d' (pre ++ [k]) := by
  obtain ⟨plain, noCommands, noArgs, noRedirects, joined⟩ := reads
  cases k <;> simp only [step, reduceCtorEq, Except.ok.injEq, Prod.mk.injEq] at stepped
  case bang =>
    obtain ⟨rfl, rfl⟩ := stepped
    exact ⟨noArgs, noRedirects, pre, [.bang], joined, ⟨[], by simp, .inl ⟨noCommands, rfl⟩⟩, rfl⟩
  case word w =>
    obtain ⟨rfl, rfl⟩ := stepped
    have command : CommandSyntax [.word w] ⟨[w], d.redirects⟩ := by
      simpa [noRedirects] using CommandSyntax.program w
    refine ⟨pre, [], [.word w], joined, ⟨[], by simp [plain], .inl ⟨noCommands, rfl⟩⟩, command, ?_⟩
    simp

theorem Reads.step_program {d d' : Draft} {e' : Expect} {pre : List TokenKind} {k : TokenKind}
    (reads : Reads pipeFail .program d pre) (stepped : step pipeFail .program d k = .ok (e', d')) :
    Reads pipeFail e' d' (pre ++ [k]) := by
  obtain ⟨noArgs, noRedirects, jks, oks, joined, opened, rfl⟩ := reads
  cases k <;> simp only [step, reduceCtorEq, Except.ok.injEq, Prod.mk.injEq] at stepped
  case word w =>
    obtain ⟨rfl, rfl⟩ := stepped
    have command : CommandSyntax [.word w] ⟨[w], d.redirects⟩ := by
      simpa [noRedirects] using CommandSyntax.program w
    exact ⟨jks, oks, [.word w], joined, opened, command, by simp⟩

theorem Reads.step_more {d d' : Draft} {e' : Expect} {pre : List TokenKind} {k : TokenKind}
    (reads : Reads pipeFail .more d pre) (stepped : step pipeFail .more d k = .ok (e', d')) :
    Reads pipeFail e' d' (pre ++ [k]) := by
  have line : LineSyntax pipeFail pre (d.tree pipeFail) := reads.tree
  obtain ⟨jks, oks, cks, joined, opened, command, rfl⟩ := reads
  -- a sequencing operator closes the tree read so far and waits for the next pipeline
  have joins : ∀ op, k.seqOp? = some op → .pipeline = e' →
      { joined := some (d.tree pipeFail, op) } = d' →
      Reads pipeFail e' d' (jks ++ oks ++ cks ++ [k]) := by
    rintro op joinsAt rfl rfl
    exact ⟨rfl, rfl, rfl, rfl, _, k, line, joinsAt, rfl⟩
  cases k <;> simp only [step, TokenKind.seqOp?, Except.ok.injEq, Prod.mk.injEq] at stepped
  case word w =>
    obtain ⟨rfl, rfl⟩ := stepped
    exact ⟨jks, oks, cks ++ [.word w], joined, opened, command.word w, by simp⟩
  case bang =>
    obtain ⟨rfl, rfl⟩ := stepped
    exact ⟨jks, oks, cks ++ [.bang], joined, opened, command.bang, by simp⟩
  case redirect op fd =>
    obtain ⟨rfl, rfl⟩ := stepped
    exact ⟨jks, oks, cks, joined, opened, command, rfl⟩
  case pipe =>
    obtain ⟨rfl, rfl⟩ := stepped
    exact ⟨rfl, rfl, jks, oks ++ cks ++ [.pipe], joined, opened.push command, by simp⟩
  case and => exact joins .and rfl stepped.1 stepped.2
  case or => exact joins .or rfl stepped.1 stepped.2
  case semi => exact joins .semi rfl stepped.1 stepped.2
  case ampersand => exact joins .background rfl stepped.1 stepped.2

theorem Reads.step_target {d d' : Draft} {e' : Expect} {pre : List TokenKind} {k : TokenKind}
    {op : RedirectOp} {fd : Option Nat} (reads : Reads pipeFail (.target op fd) d pre)
    (stepped : step pipeFail (.target op fd) d k = .ok (e', d')) :
    Reads pipeFail e' d' (pre ++ [k]) := by
  obtain ⟨jks, oks, cks, joined, opened, command, rfl⟩ := reads
  cases k <;> simp only [step, reduceCtorEq, Except.ok.injEq, Prod.mk.injEq] at stepped
  case word w =>
    obtain ⟨rfl, rfl⟩ := stepped
    exact ⟨jks, oks, cks ++ [.redirect op fd, .word w], joined, opened, command.redirect op fd w,
      by simp⟩

theorem Reads.step {e e' : Expect} {d d' : Draft} {pre : List TokenKind} {k : TokenKind}
    (reads : Reads pipeFail e d pre) (stepped : step pipeFail e d k = .ok (e', d')) :
    Reads pipeFail e' d' (pre ++ [k]) := by
  cases e with
  | pipeline => exact reads.step_pipeline stepped
  | program => exact reads.step_program stepped
  | more => exact reads.step_more stepped
  | target op fd => exact reads.step_target stepped

/-- An accepting run from a state the kinds `pre` lead to derives its tree from `pre` followed
by the kinds it read. -/
theorem LineSyntax.of_parseTokens {e : Expect} {d : Draft} {ts : List Token} {t : CommandTree}
    {pre : List TokenKind} (accepted : parseTokens pipeFail e d ts = .ok t)
    (reads : Reads pipeFail e d pre) : LineSyntax pipeFail (pre ++ ts.map Token.kind) t := by
  induction ts generalizing e d pre with
  | nil =>
    obtain ⟨rfl, rfl⟩ := eq_tree_of_finish accepted
    simpa using reads.tree
  | cons tok ts ih =>
    cases stepped : step pipeFail e d tok.kind with
    | error wanted =>
      rw [parseTokens_cons_of_refused ts stepped] at accepted
      cases accepted
    | ok next =>
      obtain ⟨e', d'⟩ := next
      rw [parseTokens_cons_of_step ts stepped] at accepted
      simpa using ih accepted (reads.step stepped)

/-! ### Completeness: running the machine over a derivation -/

/-- `Steps pipeFail e d ks e' d'`: the machine takes the kinds `ks` from `e` with `d` to `e'`
with `d'`. -/
inductive Steps (pipeFail : Bool) : Expect → Draft → List TokenKind → Expect → Draft → Prop where
  | refl (e : Expect) (d : Draft) : Steps pipeFail e d [] e d
  | snoc {e e' e'' : Expect} {d d' d'' : Draft} {ks : List TokenKind} {k : TokenKind}
      (run : Steps pipeFail e d ks e' d') (stepped : step pipeFail e' d' k = .ok (e'', d'')) :
      Steps pipeFail e d (ks ++ [k]) e'' d''

theorem Steps.single {e e' : Expect} {d d' : Draft} {k : TokenKind}
    (stepped : step pipeFail e d k = .ok (e', d')) : Steps pipeFail e d [k] e' d' :=
  .snoc (.refl e d) stepped

theorem Steps.trans {e e' e'' : Expect} {d d' d'' : Draft} {ks ks' : List TokenKind}
    (first : Steps pipeFail e d ks e' d') (second : Steps pipeFail e' d' ks' e'' d'') :
    Steps pipeFail e d (ks ++ ks') e'' d'' := by
  induction second with
  | refl => simpa using first
  | snoc _ stepped ih => simpa using (ih first).snoc stepped

theorem Steps.parseTokens {e e' : Expect} {d d' : Draft} {ks : List TokenKind}
    (run : Steps pipeFail e d ks e' d') {ts : List Token} (kinds : ts.map Token.kind = ks)
    (rest : List Token) :
    Shell.parseTokens pipeFail e d (ts ++ rest) = Shell.parseTokens pipeFail e' d' rest := by
  induction run generalizing ts rest with
  | refl => simp_all
  | snoc _ stepped ih =>
    obtain ⟨front, last, rfl, frontKinds, lastKinds⟩ := List.map_eq_append_iff.mp kinds
    obtain ⟨tok, rfl, tokKind⟩ := List.map_eq_singleton_iff.mp lastKinds
    rw [List.append_assoc, List.singleton_append, ih frontKinds]
    exact parseTokens_cons_of_step rest (tokKind ▸ stepped)

theorem step_program {e : Expect} (start : e = .pipeline ∨ e = .program) (d : Draft) (w : String) :
    step pipeFail e d (.word w) = .ok (.more, { d with args := [w] }) := by
  rcases start with rfl | rfl <;> rfl

theorem CommandSyntax.steps {ks : List TokenKind} {c : SimpleCommand} (command : CommandSyntax ks c)
    {e : Expect} (start : e = .pipeline ∨ e = .program) {d : Draft} (noRedirects : d.redirects = []) :
    Steps pipeFail e d ks .more { d with args := c.args, redirects := c.redirects } := by
  induction command with
  | program w =>
    have taken : step pipeFail e d (.word w) = .ok (.more, { d with args := [w], redirects := [] }) := by
      rw [step_program start]
      simp [noRedirects]
    exact .single taken
  | word w _ ih => exact ih.snoc rfl
  | bang _ ih => exact ih.snoc rfl
  | @redirect _ c op fd target _ ih =>
    -- the operator, then its target
    have redirected : step pipeFail .more { d with args := c.args, redirects := c.redirects }
        (.redirect op fd) = .ok (.target op fd, { d with args := c.args, redirects := c.redirects }) :=
      rfl
    have targeted : step pipeFail (.target op fd) { d with args := c.args, redirects := c.redirects }
        (.word target) = .ok (.more, { d with args := c.args,
                                              redirects := c.redirects ++ [⟨op, fd, target⟩] }) :=
      rfl
    simpa using (ih.snoc redirected).snoc targeted

theorem StagesSyntax.steps {ks : List TokenKind} {cs : List SimpleCommand}
    (stages : StagesSyntax ks cs) {e : Expect} (start : e = .pipeline ∨ e = .program) {d : Draft}
    (noRedirects : d.redirects = []) :
    ∃ done c, cs = done ++ [c] ∧ Steps pipeFail e d ks .more
      { d with commands := d.commands ++ done, args := c.args, redirects := c.redirects } := by
  induction stages with
  | @first ks c command => exact ⟨[], c, rfl, by simpa using command.steps start noRedirects⟩
  | @pipe ks ks' cs c' _ command ih =>
    obtain ⟨done, c, rfl, run⟩ := ih
    -- the pipe finishes `c` and the machine reads the next program
    have piped : Steps pipeFail e d (ks ++ [.pipe]) .program
        { d with commands := d.commands ++ done ++ [c], args := [], redirects := [] } :=
      run.snoc rfl
    have next : Steps pipeFail _ _ _ _ _ := command.steps (.inr rfl)
      (d := { d with commands := d.commands ++ done ++ [c], args := [], redirects := [] }) rfl
    refine ⟨done ++ [c], c', by simp, ?_⟩
    simpa using piped.trans next

theorem PipelineSyntax.steps {ks : List TokenKind} {p : Pipeline}
    (pipeline : PipelineSyntax pipeFail ks p) (joined : Option (CommandTree × SeqOp)) :
    ∃ d, d.joined = joined ∧ d.pipeline pipeFail = p ∧
      Steps pipeFail .pipeline { joined := joined } ks .more d := by
  cases pipeline with
  | @plain ks cs stages =>
    obtain ⟨done, c, rfl, run⟩ :=
      @StagesSyntax.steps pipeFail _ _ stages _ (.inl rfl) { joined := joined } rfl
    exact ⟨_, rfl, by simp [Draft.pipeline, Draft.command], run⟩
  | @negated ks cs stages =>
    have negated : Steps pipeFail .pipeline { joined := joined } [.bang] .program
        { joined := joined, negate := true } := .single rfl
    obtain ⟨done, c, rfl, run⟩ :=
      @StagesSyntax.steps pipeFail _ _ stages _ (.inr rfl) { joined := joined, negate := true } rfl
    refine ⟨{ joined := joined, negate := true, commands := done, args := c.args,
              redirects := c.redirects }, rfl, by simp [Draft.pipeline, Draft.command], ?_⟩
    simpa using negated.trans run

theorem LineSyntax.steps {ks : List TokenKind} {t : CommandTree} (line : LineSyntax pipeFail ks t) :
    ∃ d, d.tree pipeFail = t ∧ Steps pipeFail .pipeline {} ks .more d := by
  induction line with
  | pipeline pipeline =>
    obtain ⟨d, joined, built, run⟩ := pipeline.steps none
    exact ⟨d, by simp [Draft.tree, joined, built], run⟩
  | @sequence ks ks' t k op p _ joins right ih =>
    obtain ⟨d₁, built₁, run₁⟩ := ih
    -- the operator closes the left tree; the right pipeline starts afresh
    have closed : step pipeFail .more d₁ k = .ok (.pipeline, { joined := some (t, op) }) := by
      cases k <;> simp_all [step, TokenKind.seqOp?]
    obtain ⟨d, joined, built, run⟩ := right.steps (some (t, op))
    refine ⟨d, by simp [Draft.tree, joined, built], ?_⟩
    simpa using (run₁.snoc closed).trans run

theorem parseTokens_of_lineSyntax {ts : List Token} {t : CommandTree}
    (line : LineSyntax pipeFail (ts.map Token.kind) t) : parseTokens pipeFail .pipeline {} ts = .ok t := by
  obtain ⟨d, built, run⟩ := line.steps
  have finished := run.parseTokens rfl []
  rw [List.append_nil] at finished
  rw [finished, parseTokens, finish, built]

theorem LineSyntax.unique {ks : List TokenKind} {t t' : CommandTree} (line : LineSyntax pipeFail ks t)
    (line' : LineSyntax pipeFail ks t') : t = t' := by
  let ts : List Token := ks.map fun k => ⟨k, ⟨0, 0⟩⟩
  have kinds : ts.map Token.kind = ks := by simp [ts, Function.comp_def]
  have accepted : parseTokens pipeFail .pipeline {} ts = .ok t :=
    parseTokens_of_lineSyntax (kinds ▸ line)
  have accepted' : parseTokens pipeFail .pipeline {} ts = .ok t' :=
    parseTokens_of_lineSyntax (kinds ▸ line')
  rw [accepted] at accepted'
  exact Except.ok.inj accepted'

theorem parseTokens_ne_sequenceOperator (e : Expect) (d : Draft) (ts : List Token)
    (found : TokenKind) (span : Span) :
    parseTokens pipeFail e d ts ≠ .error (.unexpectedToken found .sequenceOperator span) := by
  induction ts generalizing e d with
  | nil => cases e <;> cases joined : d.joined <;> simp [parseTokens, finish, joined]
  | cons tok ts ih =>
    cases stepped : step pipeFail e d tok.kind with
    | error wanted =>
      rw [parseTokens_cons_of_refused ts stepped]
      have different : wanted ≠ .sequenceOperator := by
        rintro rfl
        exact step_ne_sequenceOperator e d tok.kind stepped
      simp [different]
    | ok next => rw [parseTokens_cons_of_step ts stepped]; exact ih next.1 next.2

theorem parse_eq_ok_iff {line : String} {pipeFail win32 : Bool} {t : CommandTree} :
    parse line pipeFail win32 = .ok t ↔
      ∃ ts, lex line win32 = .ok ts ∧ LineSyntax pipeFail (ts.map Token.kind) t := by
  unfold parse
  cases lex line win32 with
  | error e => simp
  | ok ts =>
    simp only [Except.ok.injEq, exists_eq_left']
    exact ⟨fun accepted => by simpa using LineSyntax.of_parseTokens accepted reads_start,
      parseTokens_of_lineSyntax⟩

/-- A line parses to a tree exactly when the lexer reads it and its tokens derive the tree,
which is then the only one they derive. The tree has one pipeline more than the line has
sequencing operators and one command more than that plus its pipes, and the parser never
reports a missing sequencing operator. -/
theorem parse_accepts_grammar (line : String) (pipeFail win32 : Bool) (t : CommandTree) :
    (parse line pipeFail win32 = .ok t ↔
      ∃ ts, lex line win32 = .ok ts ∧ LineSyntax pipeFail (ts.map Token.kind) t) ∧
    (∀ ks t', LineSyntax pipeFail ks t → LineSyntax pipeFail ks t' → t = t') ∧
    (parse line pipeFail win32 = .ok t → ∃ ts, lex line win32 = .ok ts ∧
      t.pipelines.length = ts.countP (fun tok => tok.kind.isSequenceOperator) + 1 ∧
      t.simpleCommandCount = t.pipelines.length + ts.countP (fun tok => tok.kind == .pipe)) ∧
    ∀ found span, parse line pipeFail win32 ≠ .error (.unexpectedToken found .sequenceOperator span) := by
  refine ⟨parse_eq_ok_iff, fun ks t' line line' => line.unique line', ?_, ?_⟩
  · intro accepted
    obtain ⟨ts, lexed, line⟩ := parse_eq_ok_iff.mp accepted
    obtain ⟨pipelines, commands⟩ := line.counts
    refine ⟨ts, lexed, ?_, ?_⟩
    · simpa [List.countP_map, Function.comp_def] using pipelines
    · simpa [List.count, List.countP_map, Function.comp_def] using commands
  · intro found span
    unfold parse
    cases lex line win32 with
    | error e => simp
    | ok ts => exact parseTokens_ne_sequenceOperator .pipeline {} ts found span

/-- A pipe, an `&&` and a negated pipeline with a descriptor duplication: two pipelines for one
operator, three commands for one pipe. -/
theorem parse_accepts_grammar_counted :
    parse "a | b && ! c 2>&1" = .ok (.sequence (.pipeline ⟨[⟨["a"], []⟩, ⟨["b"], []⟩], false, false⟩)
      .and (.pipeline ⟨[⟨["c"], [⟨.dupOutput, some 2, "1"⟩]⟩], false, true⟩)) ∧
    ∃ ts, lex "a | b && ! c 2>&1" = .ok ts ∧ 2 = ts.countP (fun tok => tok.kind.isSequenceOperator) + 1 ∧
      3 = 2 + ts.countP (fun tok => tok.kind == .pipe) := by
  have parsed : parse "a | b && ! c 2>&1" = .ok (.sequence
      (.pipeline ⟨[⟨["a"], []⟩, ⟨["b"], []⟩], false, false⟩) .and
      (.pipeline ⟨[⟨["c"], [⟨.dupOutput, some 2, "1"⟩]⟩], false, true⟩)) := by
    cbv
  exact ⟨parsed, (parse_accepts_grammar _ false false _).2.2.1 parsed⟩

end Pipework.Shell
