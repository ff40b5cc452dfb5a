import Pipework.Proofs.Shell.Segments

/-! Which redirections carry a descriptor (`descriptor_from_leading_digits`). -/

namespace Pipework.Shell

open Pipework.Text

/-! ### Runs of digits and texts of words -/

/-- `DigitRun w run ds`: the characters `run` write the digits `ds`, each of them, outside the
escape mode of Windows paths, possibly behind a backslash. -/
inductive DigitRun (w : Bool) : List Char → List Char → Prop
  | nil : DigitRun w [] []
  | digit {d : Char} {run ds : List Char} (digit : d.isDigit = true) (rest : DigitRun w run ds) :
      DigitRun w (d :: run) (d :: ds)
  | escaped {d : Char} {run ds : List Char} (posix : w = false) (digit : d.isDigit = true)
      (rest : DigitRun w run ds) : DigitRun w ('\\' :: d :: run) (d :: ds)

/-- `WordText w cs text quoted`: inside one word the characters `cs` are read as `text`, and
`quoted` tells whether a quoted piece was among them. A plain character stands for itself, a
backslash outside the escape mode of Windows paths for the character after it, and a quoted
piece for what its quotes hold. -/
inductive WordText (w : Bool) : List Char → List Char → Bool → Prop
  | nil : WordText w [] [] false
  | plain {c : Char} {cs text : List Char} {quoted : Bool} (lead : ∀ n, leadOf w c n = .plain)
      (rest : WordText w cs text quoted) : WordText w (c :: cs) (c :: text) quoted
  | escaped {d : Char} {cs text : List Char} {quoted : Bool} (posix : w = false)
      (rest : WordText w cs text quoted) : WordText w ('\\' :: d :: cs) (d :: text) quoted
  | single {body cs text : List Char} {quoted : Bool} (closed : '\'' ∉ body)
      (rest : WordText w cs text quoted) :
      WordText w ('\'' :: body ++ '\'' :: cs) (body ++ text) true
  | double {body content cs text : List Char} {quoted : Bool}
      (closed : DoubleQuoted body content []) (rest : WordText w cs text quoted) :
      WordText w ('"' :: body ++ cs) (content ++ text) true

variable {w : Bool}

theorem DigitRun.wordText {run ds : List Char} (digits : DigitRun w run ds) :
    WordText w run ds false := by
  induction digits with
  | nil => exact .nil
  | digit digit _ ih => exact .plain (leadOf_digit digit) ih
  | escaped posix _ _ ih => exact .escaped posix ih

theorem DigitRun.isDigit {run ds : List Char} (digits : DigitRun w run ds) :
    ∀ d ∈ ds, d.isDigit = true := by
  induction digits with
  | nil => simp
  | digit digit _ ih | escaped _ digit _ ih => exact List.forall_mem_cons.mpr ⟨digit, ih⟩

theorem DigitRun.eq_nil {run : List Char} (digits : DigitRun w run []) : run = [] := by
  cases digits
  rfl

theorem WordText.digitRun {cs text : List Char} {quoted : Bool} (word : WordText w cs text quoted)
    (unquoted : quoted = false) (digits : ∀ d ∈ text, d.isDigit = true) : DigitRun w cs text := by
  induction word with
  | nil => exact .nil
  | plain _ _ ih =>
    rw [List.forall_mem_cons] at digits
    exact .digit digits.1 (ih unquoted digits.2)
  | escaped posix _ ih =>
    rw [List.forall_mem_cons] at digits
    exact .escaped posix digits.1 (ih unquoted digits.2)
  | single | double => cases unquoted

theorem WordText.scan {cs text : List Char} {quoted : Bool} (word : WordText w cs text quoted)
    (L s : Nat) : ∀ (t : String) (q : Bool) (p : Nat) (rest : List Char),
      Shell.scan w L (.bare s t q) p (cs ++ rest) =
        Shell.scan w L (.bare s (t ++ String.ofList text) (q || quoted)) (p + byteSize cs) rest := by
  induction word with
  | nil => intro t q p rest; simp
  | @plain c cs text quoted lead _ ih =>
    intro t q p rest
    rw [List.cons_append, scan_plain (Mode.unquoted_bare s t q) (lead _)]
    simp only [Mode.word]
    rw [ih, push_append_ofList, byteSize_cons, Nat.add_assoc]
  | @escaped d cs text quoted posix _ ih =>
    intro t q p rest
    have lead : leadOf w '\\' (d :: (cs ++ rest)).head? = .escape := by
      subst posix
      simp [leadOf, isBlank]
    have one : '\\'.utf8Size = 1 := rfl
    rw [List.cons_append, List.cons_append, scan_escape (Mode.unquoted_bare s t q) lead]
    simp only [Mode.word]
    rw [ih, push_append_ofList, byteSize_cons, byteSize_cons, one]
    congr 1
    omega
  | @single body cs text quoted closed _ ih =>
    intro t q p rest
    have lead : leadOf w '\'' (body ++ '\'' :: (cs ++ rest)).head? = .single := by simp [leadOf]
    have one : '\''.utf8Size = 1 := rfl
    simp only [List.cons_append, List.append_assoc]
    rw [scan_opening_single (Mode.unquoted_bare s t q) lead]
    simp only [Mode.word]
    rw [scan_single_body w L s p (cs ++ rest) body t (p + 1) closed, ih]
    simp only [String.ofList_append, String.append_assoc, Bool.true_or, Bool.or_true,
      byteSize_cons, byteSize_append, one]
    congr 1
    omega
  | @double body content cs text quoted closed _ ih =>
    intro t q p rest
    have lead : leadOf w '"' (body ++ (cs ++ rest)).head? = .double := by simp [leadOf]
    have one : '"'.utf8Size = 1 := rfl
    obtain ⟨p', inside, bytes⟩ :=
      (closed.append (cs ++ rest)).scan w L s p t (p + 1)
    simp only [List.cons_append, List.append_assoc]
    rw [scan_opening_double (Mode.unquoted_bare s t q) lead]
    simp only [Mode.word]
    rw [inside, List.nil_append, ih]
    simp only [byteSize_append, byteSize_nil] at bytes
    simp only [String.ofList_append, String.append_assoc, Bool.true_or, Bool.or_true,
      byteSize_cons, byteSize_append, one]
    congr 1
    omega

/-! ### Between words -/

/-- Between words a character that starts a word is read as by a word with nothing in it yet,
starting there. -/
theorem scan_gap_eq_bare {L p : Nat} {c : Char} {cs : List Char}
    (starts : leadOf w c cs.head? = .single ∨ leadOf w c cs.head? = .double ∨
      leadOf w c cs.head? = .escape ∨ leadOf w c cs.head? = .plain) :
    scan w L .gap p (c :: cs) = scan w L (.bare p "" false) p (c :: cs) := by
  rw [scan.eq_8 w L .gap p c cs Mode.unquoted_gap.not_single Mode.unquoted_gap.not_double,
    scan.eq_8 w L (.bare p "" false) p c cs (Mode.unquoted_bare p "" false).not_single
      (Mode.unquoted_bare p "" false).not_double]
  rcases starts with lead | lead | lead | lead <;> simp only [lead] <;> rfl

theorem WordText.scan_gap {x text : List Char} {quoted : Bool} (word : WordText w x text quoted)
    (nonempty : x ≠ []) (L p : Nat) (rest : List Char) :
    Shell.scan w L .gap p (x ++ rest) =
      Shell.scan w L (.bare p (String.ofList text) quoted) (p + byteSize x) rest := by
  have toBare :
      Shell.scan w L .gap p (x ++ rest) = Shell.scan w L (.bare p "" false) p (x ++ rest) := by
    cases word with
    | nil => exact absurd rfl nonempty
    | plain lead _ => exact scan_gap_eq_bare (.inr (.inr (.inr (lead _))))
    | escaped posix _ =>
      subst posix
      exact scan_gap_eq_bare (.inr (.inr (.inl (by simp [leadOf, isBlank]))))
    | single _ _ => exact scan_gap_eq_bare (.inl (by simp [leadOf]))
    | double _ _ => exact scan_gap_eq_bare (.inr (.inl (by simp [leadOf])))
  rw [toBare, word.scan]
  simp

theorem Mode.descriptor?_bare (s : Nat) (text : List Char) (quoted : Bool) :
    (Mode.bare s (String.ofList text) quoted).descriptor? =
      if quoted = false ∧ text ≠ [] ∧ ∀ d ∈ text, d.isDigit = true then
        some (s, String.ofList text, digitsValue (String.ofList text))
      else none := by
  simp [Mode.descriptor?, String.all_bool_eq, and_assoc]

/-- Between words, a run of digits written right before `<` or `>` is the descriptor of that
redirection, or is refused, with its digits and its span, when it does not fit in 32 bits. -/
theorem scan_digit_run_redirect {run ds : List Char} (digits : DigitRun w run ds)
    (nonempty : ds ≠ []) {c : Char} {r : List Char} {op : RedirectOp} {width : Nat}
    (lead : leadOf w c r.head? = .redirect op width) (L p : Nat) :
    scan w L .gap p (run ++ c :: r) =
      if maxDescriptor < digitsValue (String.ofList ds) then
        .error (.invalidDescriptor (String.ofList ds) ⟨p, p + byteSize run⟩)
      else
        (⟨.redirect op (some (digitsValue (String.ofList ds))), ⟨p, p + byteSize run + width⟩⟩ :: ·)
          <$> scan w L .gap (p + byteSize run + width) (r.drop (width - 1)) := by
  have written : run ≠ [] := by
    rintro rfl
    cases digits; exact nonempty rfl
  have descriptor := Mode.descriptor?_bare p ds false
  rw [if_pos ⟨rfl, nonempty, digits.isDigit⟩] at descriptor
  rw [digits.wordText.scan_gap written, scan_redirect (Mode.unquoted_bare _ _ _) lead,
    Mode.withRedirect, descriptor]
  dsimp only
  split_ifs <;> rfl

/-- Between words, any other word text written right before `<` or `>` ends there, as a word,
and the redirection carries no descriptor. -/
theorem scan_word_redirect {x text : List Char} {quoted : Bool} (word : WordText w x text quoted)
    (nonempty : x ≠ []) (notRun : ∀ ds, ¬ DigitRun w x ds) {c : Char} {r : List Char}
    {op : RedirectOp} {width : Nat} (lead : leadOf w c r.head? = .redirect op width) (L p : Nat) :
    scan w L .gap p (x ++ c :: r) =
      (wordToken (String.ofList text) quoted ⟨p, p + byteSize x⟩ ::
          ⟨.redirect op none, ⟨p + byteSize x, p + byteSize x + width⟩⟩ :: ·)
        <$> scan w L .gap (p + byteSize x + width) (r.drop (width - 1)) := by
  have descriptor := Mode.descriptor?_bare p text quoted
  rw [if_neg fun ⟨unquoted, _, digits⟩ => notRun text (word.digitRun unquoted digits)]
    at descriptor
  rw [word.scan_gap nonempty, scan_redirect (Mode.unquoted_bare _ _ _) lead, Mode.withRedirect,
    descriptor]
  rfl

/-! ### Where a redirection comes from -/

theorem leadOf_operator_redirect {c : Char} {cs : List Char} {op : RedirectOp} {fd : Option Nat}
    {width : Nat} (lead : leadOf w c cs.head? = .operator (.redirect op fd) width) :
    op = .both ∧ fd = none ∧ c :: cs.take (width - 1) = op.symbol.toList := by
  rcases leadOf_operator_char lead with rfl | rfl | rfl <;> rcases cs with _ | ⟨d, ds⟩ <;>
    simp [leadOf] at lead
  -- after `|` or `&` the operator depends on the next character
  all_goals split_ifs at lead <;> cases lead
  subst_vars
  exact ⟨rfl, rfl, rfl⟩

theorem DigitRun.snoc_digit {run ds : List Char} (digits : DigitRun w run ds) {d : Char}
    (digit : d.isDigit = true) : DigitRun w (run ++ [d]) (ds ++ [d]) := by
  induction digits with
  | nil => exact .digit digit .nil
  | digit first _ ih => exact .digit first ih
  | escaped posix first _ ih => exact .escaped posix first ih

theorem DigitRun.snoc_escaped {run ds : List Char} (digits : DigitRun w run ds) {d : Char}
    (posix : w = false) (digit : d.isDigit = true) : DigitRun w (run ++ ['\\', d]) (ds ++ [d]) := by
  induction digits with
  | nil => exact .escaped posix digit .nil
  | digit first _ ih => exact .digit first ih
  | escaped posix' first _ ih => exact .escaped posix' first ih

/-- The characters `run` read so far in the word under way write its text as a run of digits,
whenever that text is an unquoted run of digits. -/
def Mode.DigitsFrom (w : Bool) (run : List Char) : Mode → Prop
  | .bare _ t false => (∀ d ∈ t.toList, d.isDigit = true) → DigitRun w run t.toList
  | _ => True

theorem Mode.DigitsFrom.push {run : List Char} {s : Nat} {t : String} {q : Bool} {c : Char}
    (digits : (Mode.bare s t q).DigitsFrom w run) :
    (Mode.bare s (t.push c) q).DigitsFrom w (run ++ [c]) := by
  cases q with
  | true => trivial
  | false =>
    intro allDigits
    simp only [String.toList_push, List.mem_append, List.mem_singleton] at allDigits ⊢
    exact (digits fun d mem => allDigits d (.inl mem)).snoc_digit (allDigits c (.inr rfl))

theorem Mode.DigitsFrom.escaped {run : List Char} {s : Nat} {t : String} {q : Bool} {d : Char}
    (posix : w = false) (digits : (Mode.bare s t q).DigitsFrom w run) :
    (Mode.bare s (t.push d) q).DigitsFrom w (run ++ ['\\', d]) := by
  cases q with
  | true => trivial
  | false =>
    intro allDigits
    simp only [String.toList_push, List.mem_append, List.mem_singleton] at allDigits ⊢
    exact (digits fun e mem => allDigits e (.inl mem)).snoc_escaped posix (allDigits d (.inr rfl))

/-- The redirection token `⟨.redirect op fd, sp⟩`, read at offset `p` from the characters `cs`
inside a word that started at `s` with the characters `run`, is written as a run of digits, of
which `run` is the start, and its operator: the run is its descriptor, and fits. -/
def DescribedAt (w : Bool) (run : List Char) (s p : Nat) (cs : List Char) (op : RedirectOp)
    (fd : Option Nat) (sp : Span) : Prop :=
  ∃ y z ds, cs = y ++ op.symbol.toList ++ z ∧ DigitRun w (run ++ y) ds ∧ ds ≠ [] ∧
    fd = some (digitsValue (String.ofList ds)) ∧ digitsValue (String.ofList ds) ≤ maxDescriptor ∧
    sp = ⟨s, p + byteSize (y ++ op.symbol.toList)⟩

theorem DescribedAt.cons {run : List Char} {s p p' : Nat} {cs : List Char} {op : RedirectOp}
    {fd : Option Nat} {sp : Span} (pre : List Char)
    (described : DescribedAt w (run ++ pre) s p' cs op fd sp) (moved : p' = p + byteSize pre) :
    DescribedAt w run s p (pre ++ cs) op fd sp := by
  obtain ⟨y, z, ds, rfl, digits, nonempty, value, fits, rfl⟩ := described
  refine ⟨pre ++ y, z, ds, by simp, by simpa using digits, nonempty, value, fits, ?_⟩
  simp [moved, Nat.add_assoc]

theorem wordToken_ne_redirect (text : String) (quoted : Bool) (span : Span) (op : RedirectOp)
    (fd : Option Nat) (sp : Span) : wordToken text quoted span ≠ ⟨.redirect op fd, sp⟩ := by
  unfold wordToken
  split <;> simp

theorem finish_bare_ne_redirect {op : RedirectOp} {fd : Option Nat} {sp : Span}
    {ts : List Token} (s pos : Nat) (t : String) (q : Bool) (rest : List Token) :
    ⟨.redirect op fd, sp⟩ :: ts ≠ (Mode.bare s t q).finish pos ++ rest := by
  simp only [Mode.finish, List.singleton_append, ne_eq, List.cons.injEq, not_and]
  exact fun same => absurd same.symm (wordToken_ne_redirect _ _ _ _ _ _)

/-- Inside a word, the first token is a redirection only when the word is a run of digits
written right before the operator, and then the run is its descriptor. -/
theorem scan_word_redirect_described (w : Bool) (L : Nat) (m : Mode) (p : Nat) (cs : List Char) :
    ∀ {s : Nat} {run : List Char} {op : RedirectOp} {fd : Option Nat} {sp : Span}
      {ts : List Token}, m.start? = some s → m.DigitsFrom w run →
      scan w L m p cs = .ok (⟨.redirect op fd, sp⟩ :: ts) → DescribedAt w run s p cs op fd sp := by
  fun_induction scan w L m p cs
  case case1 => intro s run op fd sp ts inWord; cases inWord
  case case2 =>
    intro s run op fd sp ts _ _ scanned
    simp only [Except.ok.injEq, List.cons.injEq] at scanned
    exact absurd scanned.1 (wordToken_ne_redirect _ _ _ _ _ _)
  case case3 | case4 | case7 | case16 => intro s run op fd sp ts _ _ scanned; cases scanned
  -- inside quotes the characters go on being part of the word
  case case5 pos c cs closing ih =>
    intro s run op fd sp ts inWord _ scanned
    have one : c.utf8Size = 1 := utf8Size_of_beq closing rfl
    exact DescribedAt.cons [c] (ih inWord trivial scanned) (by simp [one])
  case case6 pos c cs inside ih =>
    intro s run op fd sp ts inWord _ scanned
    exact DescribedAt.cons [c] (ih inWord trivial scanned) (by simp)
  case case8 pos c backslash d ds kept ih =>
    intro s run op fd sp ts inWord _ scanned
    have one : c.utf8Size = 1 := utf8Size_of_beq backslash rfl
    exact DescribedAt.cons [c, d] (ih inWord trivial scanned) (by simp [one, Nat.add_assoc])
  case case9 pos c cs plain closing ih =>
    intro s run op fd sp ts inWord _ scanned
    have one : c.utf8Size = 1 := utf8Size_of_beq closing rfl
    exact DescribedAt.cons [c] (ih inWord trivial scanned) (by simp [one])
  case case10 pos c cs plain inside ih =>
    intro s run op fd sp ts inWord _ scanned
    exact DescribedAt.cons [c] (ih inWord trivial scanned) (by simp)
  -- outside quotes the word ends at an operator or a blank, or goes on
  case case11 pos c cs notSingle notDouble kind width lead ih =>
    intro s run op fd sp ts inWord _ scanned
    have unquoted := Mode.Unquoted.intro notSingle notDouble
    obtain ⟨t, q, rfl⟩ := unquoted.eq_bare inWord
    obtain ⟨rest, -, first⟩ := withOperator_eq_ok.mp scanned
    exact (finish_bare_ne_redirect _ _ _ _ _ first).elim
  case case12 pos c cs notSingle notDouble op' width lead ih =>
    intro s run op fd sp ts inWord digits scanned
    have unquoted := Mode.Unquoted.intro notSingle notDouble
    obtain ⟨t, q, rfl⟩ := unquoted.eq_bare inWord
    cases desc : (Mode.bare s t q).descriptor? with
    | none =>
      obtain ⟨rest, -, first⟩ := (withRedirect_eq_ok_of_none desc).mp scanned
      exact (finish_bare_ne_redirect _ _ _ _ _ first).elim
    | some d =>
      -- the word is the operator's descriptor: an unquoted run of digits
      obtain ⟨s', text, v⟩ := d
      obtain ⟨_, _, same⟩ := Mode.eq_bare_of_descriptor desc
      cases same
      obtain ⟨fits, rest, -, first⟩ := (withRedirect_eq_ok_of_descriptor desc).mp scanned
      simp only [List.cons.injEq, Token.mk.injEq, TokenKind.redirect.injEq] at first
      obtain ⟨⟨⟨rfl, rfl⟩, rfl⟩, -⟩ := first
      simp only [Mode.descriptor?] at desc
      split_ifs at desc with descriptor
      simp only [Option.some.injEq, Prod.mk.injEq] at desc
      obtain ⟨-, rfl, rfl⟩ := desc
      simp only [Bool.and_eq_true, Bool.not_eq_true', String.isEmpty_eq_false_iff] at descriptor
      obtain ⟨⟨rfl, nonempty⟩, allDigits⟩ := descriptor
      have written := digits (by simpa [String.all_bool_eq] using allDigits)
      obtain ⟨-, bytes, symbol⟩ := leadOf_redirect_take lead
      refine ⟨[], cs.drop (width - 1), t.toList, ?_, by simpa using written, ?_, by simp, by simpa,
        ?_⟩
      · rw [List.nil_append, ← symbol]
        simp
      · simpa using nonempty
      · rw [List.nil_append, ← symbol, bytes]
  case case13 pos c cs notSingle notDouble lead start text _ word ih =>
    intro s run op fd sp ts inWord _ scanned
    have unquoted := Mode.Unquoted.intro notSingle notDouble
    obtain ⟨t, q, rfl⟩ := unquoted.eq_bare inWord
    cases word
    have one : c.utf8Size = 1 := by rw [eq_of_leadOf_single lead]; rfl
    exact DescribedAt.cons [c] (ih inWord trivial scanned) (by simp [one])
  case case14 pos c cs notSingle notDouble lead start text _ word ih =>
    intro s run op fd sp ts inWord _ scanned
    have unquoted := Mode.Unquoted.intro notSingle notDouble
    obtain ⟨t, q, rfl⟩ := unquoted.eq_bare inWord
    cases word
    have one : c.utf8Size = 1 := by rw [eq_of_leadOf_double lead]; rfl
    exact DescribedAt.cons [c] (ih inWord trivial scanned) (by simp [one])
  case case15 pos c cs notSingle notDouble lead ih =>
    intro s run op fd sp ts inWord _ scanned
    have unquoted := Mode.Unquoted.intro notSingle notDouble
    obtain ⟨t, q, rfl⟩ := unquoted.eq_bare inWord
    obtain ⟨rest, -, first⟩ := map_append_eq_ok.mp scanned
    exact (finish_bare_ne_redirect _ _ _ _ _ first).elim
  case case17 pos c notSingle notDouble start text _ word d ds lead ih =>
    intro s run op fd sp ts inWord digits scanned
    have unquoted := Mode.Unquoted.intro notSingle notDouble
    obtain ⟨t, q, rfl⟩ := unquoted.eq_bare inWord
    cases word
    obtain ⟨rfl, posix⟩ := eq_of_leadOf_escape lead
    have one : '\\'.utf8Size = 1 := rfl
    exact DescribedAt.cons ['\\', d] (ih inWord (digits.escaped posix) scanned)
      (by simp [one, Nat.add_assoc])
  case case18 pos c cs notSingle notDouble lead start text _ word ih =>
    intro s run op fd sp ts inWord digits scanned
    have unquoted := Mode.Unquoted.intro notSingle notDouble
    obtain ⟨t, q, rfl⟩ := unquoted.eq_bare inWord
    cases word
    exact DescribedAt.cons [c] (ih inWord digits.push scanned) (by simp)

/-- Between words, a redirection is written as its operator with, right before it, a run of
digits that is its descriptor, or nothing. -/
theorem scan_gap_redirect_written {L p : Nat} {c : Char} {cs : List Char} {op : RedirectOp}
    {fd : Option Nat} {sp : Span} {ts : List Token} (notBlank : leadOf w c cs.head? ≠ .blank)
    (scanned : scan w L .gap p (c :: cs) = .ok (⟨.redirect op fd, sp⟩ :: ts)) :
    ∃ run z ds, c :: cs = run ++ op.symbol.toList ++ z ∧ DigitRun w run ds ∧
      (run = [] ∧ fd = none ∨ ds ≠ [] ∧ fd = some (digitsValue (String.ofList ds)) ∧
        digitsValue (String.ofList ds) ≤ maxDescriptor) ∧
      sp = ⟨p, p + byteSize (run ++ op.symbol.toList)⟩ := by
  cases lead : leadOf w c cs.head? with
  | operator kind width =>
    -- only `&>` is an operator that redirects
    rw [scan_operator Mode.unquoted_gap lead] at scanned
    obtain ⟨rest, -, first⟩ := withOperator_eq_ok.mp scanned
    simp only [Mode.finish, List.nil_append, List.cons.injEq, Token.mk.injEq] at first
    obtain ⟨⟨rfl, rfl⟩, -⟩ := first
    obtain ⟨rfl, rfl, symbol⟩ := leadOf_operator_redirect lead
    obtain ⟨-, bytes⟩ := leadOf_operator_take lead
    refine ⟨[], cs.drop (width - 1), [], ?_, .nil, .inl ⟨rfl, rfl⟩, ?_⟩
    · rw [List.nil_append, ← symbol]
      simp
    · rw [List.nil_append, ← symbol, bytes]
  | redirect op' width =>
    rw [scan_redirect Mode.unquoted_gap lead] at scanned
    obtain ⟨rest, -, first⟩ := (withRedirect_eq_ok_of_none rfl).mp scanned
    simp only [Mode.finish, List.nil_append, List.cons.injEq, Token.mk.injEq,
      TokenKind.redirect.injEq] at first
    obtain ⟨⟨⟨rfl, rfl⟩, rfl⟩, -⟩ := first
    obtain ⟨-, bytes, symbol⟩ := leadOf_redirect_take lead
    refine ⟨[], cs.drop (width - 1), [], ?_, .nil, .inl ⟨rfl, rfl⟩, ?_⟩
    · rw [List.nil_append, ← symbol]
      simp
    · rw [List.nil_append, ← symbol, bytes]
  | blank => exact absurd lead notBlank
  | single | double | escape | plain =>
    -- a word starts here, with nothing read yet
    rw [scan_gap_eq_bare (by simp [lead])] at scanned
    obtain ⟨run, z, ds, written, digits, nonempty, value, fits, span⟩ :=
      scan_word_redirect_described w L _ p _ rfl (fun _ => by simpa using DigitRun.nil) scanned
    exact ⟨run, z, ds, written, by simpa using digits, .inr ⟨nonempty, value, fits⟩, span⟩

/-- In a line the lexer reads, every redirection token is written as its operator with, right
before it, a run of digits that is its descriptor, or nothing. -/
theorem lex_redirect_written {line : String} {ts : List Token} (lexed : lex line w = .ok ts)
    {t : Token} (mem : t ∈ ts) {op : RedirectOp} {fd : Option Nat}
    (redirect : t.kind = .redirect op fd) :
    ∃ pre run ds post, line.toList = pre ++ run ++ op.symbol.toList ++ post ∧ DigitRun w run ds ∧
      (run = [] ∧ fd = none ∨ ds ≠ [] ∧ fd = some (digitsValue (String.ofList ds)) ∧
        digitsValue (String.ofList ds) ≤ maxDescriptor) ∧
      t.span = ⟨byteSize pre, byteSize (pre ++ run ++ op.symbol.toList)⟩ := by
  obtain ⟨pre, mid, post, split, nonempty, span, alone⟩ :=
    (scan_segments w _ line.toList [] ts lexed).texts t mem
  rw [lex, String.toList_ofList, redirect] at alone
  obtain ⟨c, cs, rfl⟩ := List.exists_cons_of_ne_nil nonempty
  -- the token starts the text it was read from, so that text starts with no blank
  have notBlank : leadOf w c cs.head? ≠ .blank := by
    intro blank
    rw [scan_gap_blank blank] at alone
    have starts := (scan_segments w _ cs [c] _ (by simpa using alone)).ordered.1 _
      List.mem_cons_self
    have := Char.utf8Size_pos c
    simp only [byteSize_cons, byteSize_nil] at starts
    omega
  obtain ⟨run, z, ds, written, digits, descriptor, stops⟩ := scan_gap_redirect_written notBlank alone
  have noMore : z = [] := by
    have sizes := congrArg byteSize written
    simp only [Span.mk.injEq, true_and] at stops
    simp only [byteSize_append] at sizes stops
    by_contra more
    have := byteSize_pos more
    omega
  subst noMore
  refine ⟨pre, run, ds, post, ?_, digits, descriptor, ?_⟩
  · rw [← List.nil_append line.toList, split, written]
    simp
  · rw [span, written]
    simp

/-- A redirection carries a descriptor exactly when, in its word, a run of digits with no quoted
piece is written right before its `<` or `>`, from the start of the word. Between words, such a
run is the descriptor, or is refused with its digits and its span when it does not fit in 32
bits; any other text of a word ends the word before the operator, which then carries none. On
every line the lexer reads, a redirection is written as its operator with the run of its
descriptor, or nothing, right before it. -/
theorem descriptor_from_leading_digits (w : Bool) :
    (∀ {run ds : List Char} {c : Char} {r : List Char} {op : RedirectOp} {width : Nat},
      DigitRun w run ds → ds ≠ [] → leadOf w c r.head? = .redirect op width → ∀ L p,
      scan w L .gap p (run ++ c :: r) =
        if maxDescriptor < digitsValue (String.ofList ds) then
          .error (.invalidDescriptor (String.ofList ds) ⟨p, p + byteSize run⟩)
        else
          (⟨.redirect op (some (digitsValue (String.ofList ds))),
              ⟨p, p + byteSize run + width⟩⟩ :: ·)
            <$> scan w L .gap (p + byteSize run + width) (r.drop (width - 1))) ∧
    (∀ {x text : List Char} {quoted : Bool} {c : Char} {r : List Char} {op : RedirectOp}
      {width : Nat}, WordText w x text quoted → x ≠ [] → (∀ ds, ¬ DigitRun w x ds) →
      leadOf w c r.head? = .redirect op width → ∀ L p,
      scan w L .gap p (x ++ c :: r) =
        (wordToken (String.ofList text) quoted ⟨p, p + byteSize x⟩ ::
            ⟨.redirect op none, ⟨p + byteSize x, p + byteSize x + width⟩⟩ :: ·)
          <$> scan w L .gap (p + byteSize x + width) (r.drop (width - 1))) ∧
    (∀ line ts, lex line w = .ok ts → ∀ t ∈ ts, ∀ op fd, t.kind = .redirect op fd →
      ∃ pre run ds post, line.toList = pre ++ run ++ op.symbol.toList ++ post ∧
        DigitRun w run ds ∧
        (run = [] ∧ fd = none ∨ ds ≠ [] ∧ fd = some (digitsValue (String.ofList ds)) ∧
          digitsValue (String.ofList ds) ≤ maxDescriptor) ∧
        t.span = ⟨byteSize pre, byteSize (pre ++ run ++ op.symbol.toList)⟩) :=
  ⟨fun digits nonempty lead L p => scan_digit_run_redirect digits nonempty lead L p,
    fun word nonempty notRun lead L p => scan_word_redirect word nonempty notRun lead L p,
    fun _ _ lexed _ mem _ _ redirect => lex_redirect_written lexed mem redirect⟩

end Pipework.Shell
