import Pipework.Proofs.Shell.Parsing

/-! Where the parser stops on a line it cannot read. -/

namespace Pipework.Shell

variable {pipeFail : Bool}

/-- Kinds from which the grammar derives a tree. -/
def Sentence (pipeFail : Bool) (ks : List TokenKind) : Prop :=
  ∃ t, LineSyntax pipeFail ks t

/-- Kinds that more kinds make a sentence: the prefixes of sentences. -/
def Viable (pipeFail : Bool) (ks : List TokenKind) : Prop :=
  ∃ more, Sentence pipeFail (ks ++ more)

theorem Viable.of_append {ks ks' : List TokenKind} (viable : Viable pipeFail (ks ++ ks')) :
    Viable pipeFail ks := by
  obtain ⟨more, sentence⟩ := viable
  exact ⟨ks' ++ more, by simpa using sentence⟩

theorem Viable.take_le {ts : List Token} {a b : Nat}
    (viable : Viable pipeFail ((ts.take b).map Token.kind)) (le : a ≤ b) :
    Viable pipeFail ((ts.take a).map Token.kind) := by
  have split : ts.take b = ts.take a ++ (ts.take b).drop a := by
    conv_lhs => rw [← List.take_append_drop a (ts.take b)]
    rw [List.take_take, Nat.min_eq_left le]
  rw [split, List.map_append] at viable
  exact viable.of_append

theorem map_kind_take_succ {ts : List Token} {k : Nat} {tok : Token} (found : ts[k]? = some tok) :
    (ts.take (k + 1)).map Token.kind = (ts.take k).map Token.kind ++ [tok.kind] := by
  simp [List.take_add_one, found]

/-! ### Runs of the machine, taken apart -/

section Runs

variable {e e' e'' : Expect} {d d' d'' : Draft}

theorem Steps.nil_inv (run : Steps pipeFail e d [] e' d') : e' = e ∧ d' = d := by
  generalize spelled : ([] : List TokenKind) = ks at run
  cases run with
  | refl => exact ⟨rfl, rfl⟩
  | snoc => simp at spelled

theorem Steps.snoc_inv {ks : List TokenKind} {k : TokenKind}
    (run : Steps pipeFail e d (ks ++ [k]) e'' d'') :
    ∃ e' d', Steps pipeFail e d ks e' d' ∧ step pipeFail e' d' k = .ok (e'', d'') := by
  generalize spelled : ks ++ [k] = all at run
  cases run with
  | refl => simp at spelled
  | snoc front stepped =>
    obtain ⟨rfl, rfl⟩ : ks = _ ∧ k = _ := by simpa using List.append_inj' spelled rfl
    exact ⟨_, _, front, stepped⟩

theorem Steps.split {ks ks' : List TokenKind} (run : Steps pipeFail e d (ks ++ ks') e'' d'') :
    ∃ e' d', Steps pipeFail e d ks e' d' ∧ Steps pipeFail e' d' ks' e'' d'' := by
  induction ks' using List.reverseRecOn generalizing e'' d'' with
  | nil => exact ⟨e'', d'', by simpa using run, .refl e'' d''⟩
  | append_singleton ks' k ih =>
    rw [← List.append_assoc] at run
    obtain ⟨e₁, d₁, front, stepped⟩ := run.snoc_inv
    obtain ⟨e', d', first, second⟩ := ih front
    exact ⟨e', d', first, second.snoc stepped⟩

theorem Steps.deterministic {ks : List TokenKind} {e₁ e₂ : Expect} {d₁ d₂ : Draft}
    (first : Steps pipeFail e d ks e₁ d₁) (second : Steps pipeFail e d ks e₂ d₂) :
    e₁ = e₂ ∧ d₁ = d₂ := by
  induction first generalizing e₂ d₂ with
  | refl =>
    obtain ⟨rfl, rfl⟩ := second.nil_inv
    exact ⟨rfl, rfl⟩
  | snoc _ stepped ih =>
    obtain ⟨e', d', front, stepped'⟩ := second.snoc_inv
    obtain ⟨rfl, rfl⟩ := ih front
    rw [stepped] at stepped'
    simpa using stepped'

theorem Steps.reads {ks pre : List TokenKind} (run : Steps pipeFail e d ks e' d')
    (reads : Reads pipeFail e d pre) : Reads pipeFail e' d' (pre ++ ks) := by
  induction run with
  | refl => simpa using reads
  | snoc _ stepped ih => simpa using (ih reads).step stepped

theorem Steps.reads_of_start {ks : List TokenKind} (run : Steps pipeFail .pipeline {} ks e d) :
    Reads pipeFail e d ks := by
  simpa using run.reads reads_start

end Runs

/-! ### Viable prefixes are the machine's runs -/

/-- Every state the machine reaches can be finished: one word completes a program or a
redirection target, and a command under way may end. -/
theorem Reads.viable {e : Expect} {d : Draft} {pre : List TokenKind} (reads : Reads pipeFail e d pre) :
    Viable pipeFail pre := by
  have completes : ∀ {d'}, Shell.step pipeFail e d (.word "") = .ok (.more, d') → Viable pipeFail pre :=
    fun stepped => ⟨[.word ""], _, (reads.step stepped).tree⟩
  cases e with
  | pipeline => exact completes rfl
  | program => exact completes rfl
  | more => exact ⟨[], _, by simpa using reads.tree⟩
  | target op fd => exact completes rfl

theorem viable_iff_steps {ks : List TokenKind} :
    Viable pipeFail ks ↔ ∃ e d, Steps pipeFail .pipeline {} ks e d := by
  constructor
  · rintro ⟨more, t, line⟩
    obtain ⟨d, -, run⟩ := line.steps
    obtain ⟨e', d', front, -⟩ := run.split
    exact ⟨e', d', front⟩
  · rintro ⟨e, d, run⟩
    exact run.reads_of_start.viable

theorem sentence_iff_steps {ks : List TokenKind} :
    Sentence pipeFail ks ↔ ∃ d, Steps pipeFail .pipeline {} ks .more d := by
  constructor
  · rintro ⟨t, line⟩
    obtain ⟨d, -, run⟩ := line.steps
    exact ⟨d, run⟩
  · rintro ⟨d, run⟩
    exact ⟨_, run.reads_of_start.tree⟩

theorem not_viable_of_refused {e : Expect} {d : Draft} {ks : List TokenKind} {k : TokenKind}
    {wanted : Wanted} (run : Steps pipeFail .pipeline {} ks e d)
    (refused : step pipeFail e d k = .error wanted) : ¬ Viable pipeFail (ks ++ [k]) := by
  intro viable
  obtain ⟨e'', d'', longer⟩ := viable_iff_steps.mp viable
  obtain ⟨e', d', front, stepped⟩ := longer.snoc_inv
  obtain ⟨rfl, rfl⟩ := front.deterministic run
  rw [refused] at stepped
  cases stepped

theorem Reads.eq_nil_of_unjoined {d : Draft} {pre : List TokenKind}
    (reads : Reads pipeFail .pipeline d pre) (unjoined : d.joined = none) : pre = [] := by
  obtain ⟨-, -, -, -, joined⟩ := reads
  rw [unjoined] at joined
  exact joined

/-! ### How a run ends -/

/-- A run takes every token and ends as `finish` says, or refuses the first token that the
machine cannot take, with that token's kind and span. -/
theorem parseTokens_cases (ts : List Token) (e : Expect) (d : Draft) :
    (∃ e' d', Steps pipeFail e d (ts.map Token.kind) e' d' ∧
        parseTokens pipeFail e d ts = finish pipeFail e' d') ∨
      ∃ k tok e' d' wanted, ts[k]? = some tok ∧
        Steps pipeFail e d ((ts.take k).map Token.kind) e' d' ∧
        step pipeFail e' d' tok.kind = .error wanted ∧
        parseTokens pipeFail e d ts = .error (.unexpectedToken tok.kind wanted tok.span) := by
  induction ts generalizing e d with
  | nil => exact .inl ⟨e, d, .refl e d, rfl⟩
  | cons tok ts ih =>
    cases stepped : step pipeFail e d tok.kind with
    | error wanted =>
      exact .inr ⟨0, tok, e, d, wanted, rfl, .refl e d, stepped,
        parseTokens_cons_of_refused ts stepped⟩
    | ok next =>
      obtain ⟨e₁, d₁⟩ := next
      have first : Steps pipeFail e d [tok.kind] e₁ d₁ := .single stepped
      rw [parseTokens_cons_of_step ts stepped]
      rcases ih e₁ d₁ with ⟨e', d', run, finished⟩ | ⟨k, tok', e', d', wanted, found, run, refused, failed⟩
      · exact .inl ⟨e', d', by simpa using first.trans run, finished⟩
      · exact .inr ⟨k + 1, tok', e', d', wanted, by simpa using found,
          by simpa using first.trans run, refused, failed⟩

theorem finish_eq_empty {e : Expect} {d : Draft} (ended : finish pipeFail e d = .error .empty) :
    e = .pipeline ∧ d.joined = none := by
  cases e with
  | pipeline => cases joined : d.joined <;> simp_all [finish]
  | program | more | target => simp [finish] at ended

theorem finish_ne_unexpectedToken (e : Expect) (d : Draft) (found : TokenKind) (wanted : Wanted)
    (span : Span) : finish pipeFail e d ≠ .error (.unexpectedToken found wanted span) := by
  cases e <;> cases joined : d.joined <;> simp [finish, joined]

theorem finish_unexpectedEnd {e : Expect} {d : Draft} (waiting : e ≠ .more)
    (started : e = .pipeline → d.joined ≠ none) :
    ∃ wanted, finish pipeFail e d = .error (.unexpectedEnd wanted) := by
  cases e with
  | pipeline =>
    cases joined : d.joined with
    | none => exact absurd joined (started rfl)
    | some entry => exact ⟨.commandAfter entry.2, by simp [finish, joined]⟩
  | program => exact ⟨.command, rfl⟩
  | more => exact absurd rfl waiting
  | target => exact ⟨.target, rfl⟩

section Errors

variable {ts : List Token}

theorem parseTokens_empty_iff : parseTokens pipeFail .pipeline {} ts = .error .empty ↔ ts = [] := by
  constructor
  · intro failed
    rcases parseTokens_cases ts .pipeline {} with ⟨e, d, run, finished⟩ | ⟨_, _, _, _, _, -, -, -, refused⟩
    · rw [finished] at failed
      obtain ⟨rfl, unjoined⟩ := finish_eq_empty failed
      exact List.map_eq_nil_iff.mp (run.reads_of_start.eq_nil_of_unjoined unjoined)
    · rw [refused] at failed
      cases failed
  · rintro rfl
    rfl

theorem parseTokens_unexpectedToken {found : TokenKind} {wanted : Wanted} {span : Span}
    (failed : parseTokens pipeFail .pipeline {} ts = .error (.unexpectedToken found wanted span)) :
    ∃ k tok, ts[k]? = some tok ∧ Viable pipeFail ((ts.take k).map Token.kind) ∧
      ¬ Viable pipeFail ((ts.take (k + 1)).map Token.kind) ∧ tok.kind = found ∧ tok.span = span := by
  rcases parseTokens_cases ts .pipeline {} with ⟨e, d, -, finished⟩ | ⟨k, tok, e, d, wanted', found', run, refused, failed'⟩
  · rw [finished] at failed
    exact absurd failed (finish_ne_unexpectedToken e d found wanted span)
  · rw [failed'] at failed
    simp only [Except.error.injEq, ParseError.unexpectedToken.injEq] at failed
    obtain ⟨rfl, -, rfl⟩ := failed
    refine ⟨k, tok, found', viable_iff_steps.mpr ⟨e, d, run⟩, ?_, rfl, rfl⟩
    rw [map_kind_take_succ found']
    exact not_viable_of_refused run refused

theorem parseTokens_refuses_dead_end {k : Nat} {tok : Token} (found : ts[k]? = some tok)
    (viable : Viable pipeFail ((ts.take k).map Token.kind))
    (dead : ¬ Viable pipeFail ((ts.take (k + 1)).map Token.kind)) :
    ∃ wanted, parseTokens pipeFail .pipeline {} ts = .error (.unexpectedToken tok.kind wanted tok.span) := by
  rcases parseTokens_cases ts .pipeline {} with ⟨e, d, run, -⟩ | ⟨j, tok', e, d, wanted, found', run, refused, failed⟩
  · -- the machine took every token, so every prefix is viable
    have whole : Viable pipeFail (ts.map Token.kind) := viable_iff_steps.mpr ⟨e, d, run⟩
    rw [← List.take_append_drop (k + 1) ts, List.map_append] at whole
    exact absurd whole.of_append dead
  · -- the refused token is the first dead end too, so it is the `k`-th
    have viable' : Viable pipeFail ((ts.take j).map Token.kind) := viable_iff_steps.mpr ⟨e, d, run⟩
    have dead' : ¬ Viable pipeFail ((ts.take (j + 1)).map Token.kind) := by
      rw [map_kind_take_succ found']
      exact not_viable_of_refused run refused
    obtain rfl : j = k := by
      rcases Nat.lt_trichotomy j k with before | same | after
      · exact absurd (viable.take_le (Nat.succ_le_of_lt before)) dead'
      · exact same
      · exact absurd (viable'.take_le (Nat.succ_le_of_lt after)) dead
    rw [found'] at found
    cases found
    exact ⟨wanted, failed⟩

theorem parseTokens_unexpectedEnd_iff :
    (∃ wanted, parseTokens pipeFail .pipeline {} ts = .error (.unexpectedEnd wanted)) ↔
      ts ≠ [] ∧ Viable pipeFail (ts.map Token.kind) ∧ ¬ Sentence pipeFail (ts.map Token.kind) := by
  constructor
  · rintro ⟨wanted, failed⟩
    rcases parseTokens_cases ts .pipeline {} with ⟨e, d, run, finished⟩ | ⟨_, _, _, _, _, -, -, -, refused⟩
    · rw [finished] at failed
      refine ⟨?_, viable_iff_steps.mpr ⟨e, d, run⟩, ?_⟩
      · rintro rfl
        obtain ⟨rfl, rfl⟩ := run.nil_inv
        simp [finish] at failed
      · intro sentence
        obtain ⟨d', whole⟩ := sentence_iff_steps.mp sentence
        obtain ⟨rfl, rfl⟩ := whole.deterministic run
        simp [finish] at failed
    · rw [refused] at failed
      cases failed
  · rintro ⟨nonempty, viable, notSentence⟩
    obtain ⟨e, d, run⟩ := viable_iff_steps.mp viable
    have finished := run.parseTokens rfl []
    rw [List.append_nil] at finished
    rw [finished, parseTokens]
    apply finish_unexpectedEnd
    · rintro rfl
      exact notSentence (sentence_iff_steps.mpr ⟨d, run⟩)
    · rintro rfl unjoined
      exact nonempty (List.map_eq_nil_iff.mp (run.reads_of_start.eq_nil_of_unjoined unjoined))

end Errors

/-- On the tokens of a line, the parser reports an empty line exactly when there are none; a
token exactly when the viable prefixes end before the whole line, and then the first token that
ends them, with its kind and span; and the end of input exactly when the tokens are a viable
prefix, and so could go on to a sentence, without being one. -/
theorem parse_error_first_offending (line : String) (pipeFail win32 : Bool) (ts : List Token)
    (lexed : lex line win32 = .ok ts) :
    (parse line pipeFail win32 = .error .empty ↔ ts = []) ∧
    (∀ found wanted span, parse line pipeFail win32 = .error (.unexpectedToken found wanted span) →
      ∃ k tok, ts[k]? = some tok ∧ Viable pipeFail ((ts.take k).map Token.kind) ∧
        ¬ Viable pipeFail ((ts.take (k + 1)).map Token.kind) ∧ tok.kind = found ∧ tok.span = span) ∧
    (∀ k tok, ts[k]? = some tok → Viable pipeFail ((ts.take k).map Token.kind) →
      ¬ Viable pipeFail ((ts.take (k + 1)).map Token.kind) →
      ∃ wanted, parse line pipeFail win32 = .error (.unexpectedToken tok.kind wanted tok.span)) ∧
    ((∃ wanted, parse line pipeFail win32 = .error (.unexpectedEnd wanted)) ↔
      ts ≠ [] ∧ Viable pipeFail (ts.map Token.kind) ∧ ¬ Sentence pipeFail (ts.map Token.kind)) := by
  have parsed : parse line pipeFail win32 = parseTokens pipeFail .pipeline {} ts := by
    simp [parse, lexed]
  rw [parsed]
  exact ⟨parseTokens_empty_iff, fun _ _ _ failed => parseTokens_unexpectedToken failed,
    fun _ _ found viable dead => parseTokens_refuses_dead_end found viable dead,
    parseTokens_unexpectedEnd_iff⟩

/-- In `a && || b` the `||` is where no sentence goes on, and the parser names it with its
span. -/
theorem parse_error_first_offending_or :
    ∃ ts k tok, lex "a && || b" = .ok ts ∧ ts[k]? = some tok ∧
      Viable false ((ts.take k).map Token.kind) ∧ ¬ Viable false ((ts.take (k + 1)).map Token.kind) ∧
      tok.kind = .or ∧ tok.span = ⟨5, 7⟩ := by
  have lexed : lex "a && || b" =
      .ok [⟨.word "a", ⟨0, 1⟩⟩, ⟨.and, ⟨2, 4⟩⟩, ⟨.or, ⟨5, 7⟩⟩, ⟨.word "b", ⟨8, 9⟩⟩] := by
    cbv
  have parsed : parse "a && || b" = .error (.unexpectedToken .or .command ⟨5, 7⟩) := by
    cbv
  obtain ⟨k, tok, found, viable, dead, kind, span⟩ :=
    (parse_error_first_offending "a && || b" false false _ lexed).2.1 _ _ _ parsed
  exact ⟨_, k, tok, lexed, found, viable, dead, kind, span⟩

end Pipework.Shell
