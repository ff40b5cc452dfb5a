import Pipework.Proofs.Shell.Quoting

/-! How the lexer reads one token. -/

namespace Pipework.Shell

open Pipework.Text

/-! ### Moving a line -/

/-- A span `q` bytes further on. -/
def Span.shift (q : Nat) (span : Span) : Span :=
  ⟨span.start + q, span.stop + q⟩

/-- A token `q` bytes further on. -/
def Token.shift (q : Nat) (t : Token) : Token :=
  ⟨t.kind, t.span.shift q⟩

/-- An error `q` bytes further on. -/
def LexError.shift (q : Nat) : LexError → LexError
  | .unterminatedSingleQuote s => .unterminatedSingleQuote (s.shift q)
  | .unterminatedDoubleQuote s => .unterminatedDoubleQuote (s.shift q)
  | .trailingBackslash s => .trailingBackslash (s.shift q)
  | .invalidDescriptor text s => .invalidDescriptor text (s.shift q)

/-- The lexer's state with every offset it remembers `q` bytes further on. -/
def Mode.shift (q : Nat) : Mode → Mode
  | .gap => .gap
  | .bare s t quoted => .bare (s + q) t quoted
  | .single s t o => .single (s + q) t (o + q)
  | .double s t o => .double (s + q) t (o + q)

/-- A lexer result for text that stands `q` bytes further into a line. -/
def shiftResult (q : Nat) : Except LexError (List Token) → Except LexError (List Token)
  | .ok ts => .ok (ts.map (Token.shift q))
  | .error e => .error (e.shift q)

theorem Mode.Unquoted.intro {m : Mode} (notSingle : ∀ s t o, m = .single s t o → False)
    (notDouble : ∀ s t o, m = .double s t o → False) : m.Unquoted :=
  fun s t o => ⟨notSingle s t o, notDouble s t o⟩

theorem utf8Size_of_beq {c d : Char} (same : (c == d) = true) (one : d.utf8Size = 1) :
    c.utf8Size = 1 := by
  rw [beq_iff_eq.mp same, one]

theorem scan_escape {w : Bool} {L p : Nat} {m : Mode} {c d : Char} {ds : List Char}
    (unquoted : m.Unquoted) (lead : leadOf w c (d :: ds).head? = .escape) :
    scan w L m p (c :: d :: ds) =
      scan w L (.bare (m.word p).1 ((m.word p).2.1.push d) (m.word p).2.2) (p + 1 + d.utf8Size) ds := by
  rw [scan.eq_8 w L m p c (d :: ds) unquoted.not_single unquoted.not_double]
  simp only [lead]

theorem scan_escape_end {w : Bool} {L p : Nat} {m : Mode} {c : Char} (unquoted : m.Unquoted)
    (lead : leadOf w c none = .escape) :
    scan w L m p [c] = .error (.trailingBackslash ⟨p, p + 1⟩) := by
  rw [scan.eq_8 w L m p c [] unquoted.not_single unquoted.not_double]
  simp only [List.head?_nil, lead]

section Shift

variable {w : Bool} {L p q : Nat} {m : Mode}

theorem Mode.Unquoted.shift (unquoted : m.Unquoted) (q : Nat) : (m.shift q).Unquoted := by
  cases m with
  | gap => exact Mode.unquoted_gap
  | bare s t quoted => exact Mode.unquoted_bare _ _ _
  | single s t o => exact absurd rfl (unquoted.not_single s t o)
  | double s t o => exact absurd rfl (unquoted.not_double s t o)

theorem wordToken_shift (text : String) (quoted : Bool) (span : Span) :
    (wordToken text quoted span).shift q = wordToken text quoted (span.shift q) := by
  unfold wordToken
  split <;> rfl

theorem Mode.finish_shift (m : Mode) (p q : Nat) :
    (m.shift q).finish (p + q) = (m.finish p).map (Token.shift q) := by
  cases m <;> simp [Mode.shift, Mode.finish, wordToken_shift, Span.shift]

theorem Mode.word_shift (m : Mode) (p q : Nat) :
    (m.shift q).word (p + q) = ((m.word p).1 + q, (m.word p).2) := by
  cases m <;> rfl

theorem Mode.descriptor?_shift (m : Mode) (q : Nat) :
    (m.shift q).descriptor? = m.descriptor?.map fun d => (d.1 + q, d.2) := by
  cases m with
  | bare s t quoted =>
    simp only [Mode.shift, Mode.descriptor?]
    split <;> rfl
  | gap | single | double => rfl

theorem withOperator_shift (m : Mode) (t : Token) (r : Except LexError (List Token)) :
    (m.shift q).withOperator (p + q) (t.shift q) (shiftResult q r) =
      shiftResult q (m.withOperator p t r) := by
  cases r <;> simp [Mode.withOperator, shiftResult, Mode.finish_shift, Except.map]

theorem withRedirect_shift (m : Mode) (width : Nat) (op : RedirectOp)
    (r : Except LexError (List Token)) :
    (m.shift q).withRedirect (p + q) width op (shiftResult q r) =
      shiftResult q (m.withRedirect p width op r) := by
  unfold Mode.withRedirect
  rw [Mode.descriptor?_shift]
  cases m.descriptor? with
  | none =>
    cases r <;> simp [shiftResult, Mode.finish_shift, Except.map, Token.shift, Span.shift,
      Nat.add_right_comm]
  | some d =>
    obtain ⟨s, text, value⟩ := d
    by_cases large : maxDescriptor < value
    · simp [large, shiftResult, LexError.shift, Span.shift]
    · cases r <;> simp [large, shiftResult, Except.map, Token.shift, Span.shift, Nat.add_right_comm]

theorem shiftResult_map_append (front : List Token) (r : Except LexError (List Token)) :
    shiftResult q ((front ++ ·) <$> r) = ((front.map (Token.shift q)) ++ ·) <$> shiftResult q r := by
  cases r <;> simp [shiftResult, Functor.map, Except.map]

theorem scan_shift (w : Bool) (L : Nat) (m : Mode) (p : Nat) (cs : List Char) :
    scan w (L + q) (m.shift q) (p + q) cs = shiftResult q (scan w L m p cs) := by
  fun_induction scan w L m p cs
  case case1 => simp [Mode.shift, scan.eq_1, shiftResult]
  case case2 => simp [Mode.shift, scan.eq_2, shiftResult, wordToken_shift, Span.shift]
  case case3 => simp [Mode.shift, scan.eq_3, shiftResult, LexError.shift, Span.shift]
  case case4 => simp [Mode.shift, scan.eq_4, shiftResult, LexError.shift, Span.shift]
  -- inside quotes the step is the same, further on
  case case5 closing ih =>
    rw [← ih]
    simp only [Mode.shift]
    rw [scan.eq_5, if_pos closing, Nat.add_right_comm]
  case case6 c _ inside ih =>
    rw [← ih]
    simp only [Mode.shift]
    rw [scan.eq_5, if_neg inside, Nat.add_right_comm]
  case case7 backslash =>
    simp [Mode.shift, scan.eq_6, backslash, shiftResult, LexError.shift, Span.shift,
      Nat.add_right_comm]
  case case8 pos c backslash d ds kept ih =>
    rw [← ih]
    simp only [Mode.shift]
    rw [scan.eq_7, if_pos backslash]
    have moved : pos + q + 1 + d.utf8Size = pos + 1 + d.utf8Size + q := by omega
    simp only [kept, dite_eq_ite, moved]
  case case9 plain closing ih =>
    rw [← ih]
    simp only [Mode.shift]
    rw [scan_double_char (by simpa using plain), if_pos closing, Nat.add_right_comm]
  case case10 plain inside ih =>
    rw [← ih]
    simp only [Mode.shift]
    rw [scan_double_char (by simpa using plain), if_neg inside, Nat.add_right_comm]
  -- outside quotes the lead is read the same way, and the state moves along
  case case11 notSingle notDouble kind width lead ih =>
    have unquoted := Mode.Unquoted.intro notSingle notDouble
    rw [scan_operator (unquoted.shift q) lead, ← withOperator_shift, ← ih]
    simp [Mode.shift, Token.shift, Span.shift, Nat.add_right_comm]
  case case12 notSingle notDouble op width lead ih =>
    have unquoted := Mode.Unquoted.intro notSingle notDouble
    rw [scan_redirect (unquoted.shift q) lead, ← withRedirect_shift, ← ih]
    simp [Mode.shift, Nat.add_right_comm]
  case case13 notSingle notDouble lead start text _ word ih =>
    have unquoted := Mode.Unquoted.intro notSingle notDouble
    rw [scan_opening_single (unquoted.shift q) lead, Mode.word_shift, word, ← ih]
    simp [Mode.shift, Nat.add_right_comm]
  case case14 notSingle notDouble lead start text _ word ih =>
    have unquoted := Mode.Unquoted.intro notSingle notDouble
    rw [scan_opening_double (unquoted.shift q) lead, Mode.word_shift, word, ← ih]
    simp [Mode.shift, Nat.add_right_comm]
  case case15 notSingle notDouble lead ih =>
    have unquoted := Mode.Unquoted.intro notSingle notDouble
    rw [scan_blank (unquoted.shift q) lead, shiftResult_map_append, ← Mode.finish_shift, ← ih]
    simp [Mode.shift, Nat.add_right_comm]
  case case16 notSingle notDouble _ _ _ _ lead =>
    have unquoted := Mode.Unquoted.intro notSingle notDouble
    rw [scan_escape_end (unquoted.shift q) lead]
    simp [shiftResult, LexError.shift, Span.shift, Nat.add_right_comm]
  case case17 pos c notSingle notDouble start text _ word d ds lead ih =>
    have unquoted := Mode.Unquoted.intro notSingle notDouble
    rw [scan_escape (unquoted.shift q) lead, Mode.word_shift, word, ← ih]
    have moved : pos + q + 1 + d.utf8Size = pos + 1 + d.utf8Size + q := by omega
    simp [Mode.shift, moved]
  case case18 notSingle notDouble lead start text _ word ih =>
    have unquoted := Mode.Unquoted.intro notSingle notDouble
    rw [scan_plain (unquoted.shift q) lead, Mode.word_shift, word, ← ih]
    simp [Mode.shift, Nat.add_right_comm]

end Shift

/-- Text that the lexer reads as one token at some offset, whatever the end of its line, is that
token when lexed alone. -/
theorem lex_alone {w : Bool} {p : Nat} {a : List Char} {k : TokenKind}
    (read : ∀ L, scan w L .gap p a = .ok [⟨k, ⟨p, p + byteSize a⟩⟩]) :
    lex (String.ofList a) w = .ok [⟨k, ⟨0, byteSize a⟩⟩] := by
  have moved := scan_shift (q := p) w (byteSize a) .gap 0 a
  rw [Nat.zero_add, show Mode.shift p .gap = .gap from rfl, read] at moved
  rw [lex, String.toList_ofList, utf8ByteSize_ofList]
  cases alone : scan w (byteSize a) .gap 0 a with
  | error e =>
    rw [alone] at moved
    cases moved
  | ok ts =>
    rw [alone] at moved
    simp only [shiftResult, Except.ok.injEq] at moved
    obtain ⟨⟨kind, start, stop⟩, rfl, shifted⟩ := List.map_eq_singleton_iff.mp moved.symm
    simp only [Token.shift, Span.shift, Token.mk.injEq, Span.mk.injEq] at shifted
    obtain ⟨rfl, starts, stops⟩ := shifted
    have : start = 0 := by omega
    have : stop = byteSize a := by omega
    subst_vars
    rfl

/-! ### What the first characters stand for -/

section Leads

variable {w : Bool} {c : Char}

theorem leadOf_special (n : Option Char) (special : c = '|' ∨ c = '&' ∨ c = '>' ∨ c = '<') :
    (∃ kind width, leadOf w c n = .operator kind width) ∨
      ∃ op width, leadOf w c n = .redirect op width := by
  rcases special with rfl | rfl | rfl | rfl <;> rcases n with _ | d <;> simp [leadOf] <;>
    split_ifs <;> simp

/-- Any other character stands for one thing, whatever follows it. Reading the chain of tests
through this form keeps case splits on a lead small. -/
theorem leadOf_not_special (notSpecial : ¬ (c = '|' ∨ c = '&' ∨ c = '>' ∨ c = '<'))
    (n : Option Char) :
    leadOf w c n =
      if c = ';' then .operator .semi 1 else if c = '\'' then .single else if c = '"' then .double
      else if isBlank c then .blank else if c = '\\' ∧ w = false then .escape else .plain := by
  simp only [not_or] at notSpecial
  simp [leadOf, notSpecial]

theorem not_special_of_leadOf {n : Option Char} {x : Lead} (lead : leadOf w c n = x)
    (notOperator : ∀ kind width, x ≠ .operator kind width)
    (notRedirect : ∀ op width, x ≠ .redirect op width) :
    ¬ (c = '|' ∨ c = '&' ∨ c = '>' ∨ c = '<') := fun special => by
  rcases leadOf_special n special with ⟨kind, width, operator⟩ | ⟨op, width, redirect⟩
  · exact notOperator kind width (lead ▸ operator)
  · exact notRedirect op width (lead ▸ redirect)

theorem leadOf_next {n : Option Char} {x : Lead} (lead : leadOf w c n = x)
    (notOperator : ∀ kind width, x ≠ .operator kind width)
    (notRedirect : ∀ op width, x ≠ .redirect op width) (n' : Option Char) :
    leadOf w c n' = x := by
  have plain := not_special_of_leadOf lead notOperator notRedirect
  rw [← lead, leadOf_not_special plain, leadOf_not_special plain]

theorem leadOf_operator_char {n : Option Char} {kind : TokenKind} {width : Nat}
    (lead : leadOf w c n = .operator kind width) : c = '|' ∨ c = '&' ∨ c = ';' := by
  by_contra other
  simp only [not_or] at other
  simp only [leadOf, beq_iff_eq, other.1, other.2.1, other.2.2, if_false] at lead
  split_ifs at lead

theorem leadOf_redirect_char {n : Option Char} {op : RedirectOp} {width : Nat}
    (lead : leadOf w c n = .redirect op width) : c = '>' ∨ c = '<' := by
  by_contra other
  simp only [not_or] at other
  simp only [leadOf, beq_iff_eq, other.1, other.2, if_false] at lead
  split_ifs at lead

theorem leadOf_operator_take {cs : List Char} {kind : TokenKind} {width : Nat}
    (lead : leadOf w c cs.head? = .operator kind width) :
    leadOf w c (cs.take (width - 1)).head? = .operator kind width ∧
      byteSize (c :: cs.take (width - 1)) = width := by
  rcases leadOf_operator_char lead with rfl | rfl | rfl <;> rcases cs with _ | ⟨d, ds⟩ <;>
    simp [leadOf] at lead
  -- a character alone, or a character and the one after it
  case inl.nil | inr.inl.nil | inr.inr.nil | inr.inr.cons =>
    obtain ⟨rfl, rfl⟩ := lead
    exact ⟨by simp [leadOf], rfl⟩
  case inl.cons | inr.inl.cons =>
    split_ifs at lead <;> cases lead <;> subst_vars <;> exact ⟨by simp [leadOf], rfl⟩

/-- A redirection operator is read the same from its own characters, each of them is one byte,
and together they are its symbol. -/
theorem leadOf_redirect_take {cs : List Char} {op : RedirectOp} {width : Nat}
    (lead : leadOf w c cs.head? = .redirect op width) :
    leadOf w c (cs.take (width - 1)).head? = .redirect op width ∧
      byteSize (c :: cs.take (width - 1)) = width ∧ c :: cs.take (width - 1) = op.symbol.toList := by
  rcases leadOf_redirect_char lead with rfl | rfl <;> rcases cs with _ | ⟨d, ds⟩ <;>
    simp [leadOf] at lead
  case inl.nil | inr.nil =>
    obtain ⟨rfl, rfl⟩ := lead
    exact ⟨by simp [leadOf], rfl, rfl⟩
  case inl.cons | inr.cons =>
    split_ifs at lead <;> cases lead <;> subst_vars <;> exact ⟨by simp [leadOf], rfl, rfl⟩

theorem isBlank_of_leadOf {n : Option Char} (lead : leadOf w c n = .blank) : isBlank c = true := by
  rw [leadOf_not_special (not_special_of_leadOf lead (by simp) (by simp))] at lead
  split_ifs at lead with semi quote double blank
  exact blank

theorem eq_of_leadOf_single {n : Option Char} (lead : leadOf w c n = .single) : c = '\'' := by
  rw [leadOf_not_special (not_special_of_leadOf lead (by simp) (by simp))] at lead
  split_ifs at lead with semi quote
  exact quote

theorem eq_of_leadOf_double {n : Option Char} (lead : leadOf w c n = .double) : c = '"' := by
  rw [leadOf_not_special (not_special_of_leadOf lead (by simp) (by simp))] at lead
  split_ifs at lead with semi quote double
  exact double

theorem eq_of_leadOf_escape {n : Option Char} (lead : leadOf w c n = .escape) :
    c = '\\' ∧ w = false := by
  rw [leadOf_not_special (not_special_of_leadOf lead (by simp) (by simp))] at lead
  split_ifs at lead with semi quote double blank escape
  exact escape

end Leads

/-! ### One step of the scanner, read backwards -/

/-- Where the word under way started, if the lexer is inside one. -/
def Mode.start? : Mode → Option Nat
  | .gap => none
  | .bare s _ _ | .single s _ _ | .double s _ _ => some s

theorem wordToken_span (text : String) (quoted : Bool) (span : Span) :
    (wordToken text quoted span).span = span := by
  unfold wordToken
  split <;> rfl

theorem Mode.Unquoted.eq_bare {m : Mode} (unquoted : m.Unquoted) {s : Nat}
    (inWord : m.start? = some s) : ∃ t q, m = .bare s t q := by
  cases m with
  | gap => cases inWord
  | bare s' t q => cases inWord; exact ⟨t, q, rfl⟩
  | single s' t o => exact absurd rfl (unquoted.not_single s' t o)
  | double s' t o => exact absurd rfl (unquoted.not_double s' t o)

theorem withOperator_eq_ok {m : Mode} {p : Nat} {t : Token} {r : Except LexError (List Token)}
    {ts : List Token} :
    m.withOperator p t r = .ok ts ↔ ∃ rest, r = .ok rest ∧ ts = m.finish p ++ t :: rest := by
  cases r <;> simp [Mode.withOperator, Except.map, eq_comm]

theorem map_append_eq_ok {front : List Token} {r : Except LexError (List Token)}
    {ts : List Token} :
    (front ++ ·) <$> r = .ok ts ↔ ∃ rest, r = .ok rest ∧ ts = front ++ rest := by
  cases r <;> simp [Functor.map, Except.map, eq_comm]

theorem withRedirect_eq_ok_of_descriptor {m : Mode} {s v : Nat} {text : String}
    (desc : m.descriptor? = some (s, text, v)) {p width : Nat} {op : RedirectOp}
    {r : Except LexError (List Token)} {ts : List Token} :
    m.withRedirect p width op r = .ok ts ↔
      v ≤ maxDescriptor ∧
        ∃ rest, r = .ok rest ∧ ts = ⟨.redirect op (some v), ⟨s, p + width⟩⟩ :: rest := by
  unfold Mode.withRedirect
  rw [desc]
  by_cases large : maxDescriptor < v
  · simp [large]
  · cases r <;> simp [large, Except.map, eq_comm]
    omega

theorem withRedirect_eq_ok_of_none {m : Mode} (desc : m.descriptor? = none) {p width : Nat}
    {op : RedirectOp} {r : Except LexError (List Token)} {ts : List Token} :
    m.withRedirect p width op r = .ok ts ↔
      ∃ rest, r = .ok rest ∧ ts = m.finish p ++ ⟨.redirect op none, ⟨p, p + width⟩⟩ :: rest := by
  unfold Mode.withRedirect
  rw [desc]
  cases r <;> simp [Except.map, eq_comm]

theorem Mode.eq_bare_of_descriptor {m : Mode} {s v : Nat} {text : String}
    (desc : m.descriptor? = some (s, text, v)) : ∃ t q, m = .bare s t q := by
  cases m <;> simp [Mode.descriptor?] at desc
  exact ⟨_, _, by rw [desc.2.1]⟩

/-! ### The first token -/

/-- The scanner, from mode `m` at offset `p`, reads `cs` as first a token `tok` that started at
`s`, made of what is left of it, `a`, and then the rest `r` of the line, from the gap after `a`, as
the tokens `rest`; the characters `a` read alone from `m` give the token alone. -/
def ReadsFirst (w : Bool) (L : Nat) (m : Mode) (p s : Nat) (cs : List Char) (ts : List Token) :
    Prop :=
  ∃ a r tok rest, cs = a ++ r ∧ ts = tok :: rest ∧ tok.span = ⟨s, p + byteSize a⟩ ∧
    scan w L .gap (p + byteSize a) r = .ok rest ∧ ∀ L', scan w L' m p a = .ok [tok]

section ReadsFirst

variable {w : Bool} {L : Nat}

theorem ReadsFirst.here {s p : Nat} {t : String} {q : Bool} {cs : List Char} {rest : List Token}
    (after : scan w L .gap p cs = .ok rest) :
    ReadsFirst w L (.bare s t q) p s cs (wordToken t q ⟨s, p⟩ :: rest) :=
  ⟨[], cs, _, rest, rfl, rfl, by simp [wordToken_span], by simpa using after,
    fun _ => scan.eq_2 ..⟩

/-- A step of the scanner over the characters `pre` that moves from mode `m` to `m'` leaves the
same first token to read, with `pre` among its characters. -/
theorem ReadsFirst.cons {m m' : Mode} {p p' s : Nat} {cs : List Char} {ts : List Token}
    (first : ReadsFirst w L m' p' s cs ts) (pre : List Char) (moved : p' = p + byteSize pre)
    (step : ∀ L' rest, scan w L' m p (pre ++ rest) = scan w L' m' p' rest) :
    ReadsFirst w L m p s (pre ++ cs) ts := by
  obtain ⟨a, r, tok, rest, rfl, rfl, span, cont, alone⟩ := first
  subst moved
  refine ⟨pre ++ a, r, tok, rest, by simp, rfl, ?_, ?_, fun L' => ?_⟩
  · simp [span, Nat.add_assoc]
  · simpa [Nat.add_assoc] using cont
  · rw [step, alone]

end ReadsFirst

/-- Inside a word that started at `s`, a successful scan reads the rest of that word and then the
rest of the line from the gap after it. -/
theorem scan_word (w : Bool) (L : Nat) (m : Mode) (p : Nat) (cs : List Char) :
    ∀ {s : Nat} {ts : List Token}, m.start? = some s → scan w L m p cs = .ok ts →
      ReadsFirst w L m p s cs ts := by
  fun_induction scan w L m p cs
  case case1 => intro s ts inWord; cases inWord
  case case2 =>
    intro s ts inWord scanned
    cases inWord
    cases scanned
    exact ReadsFirst.here (scan.eq_1 ..)
  case case3 | case4 | case7 | case16 => intro s ts _ scanned; cases scanned
  -- inside quotes every character is part of the word
  case case5 pos c cs closing ih =>
    intro s ts inWord scanned
    have one : c.utf8Size = 1 := utf8Size_of_beq closing rfl
    refine (ih inWord scanned).cons [c] (by simp [one]) fun L' rest => ?_
    rw [List.singleton_append, scan.eq_5, if_pos closing]
  case case6 pos c cs inside ih =>
    intro s ts inWord scanned
    refine (ih inWord scanned).cons [c] (by simp) fun L' rest => ?_
    rw [List.singleton_append, scan.eq_5, if_neg inside]
  case case8 pos c backslash d ds kept ih =>
    intro s ts inWord scanned
    have one : c.utf8Size = 1 := utf8Size_of_beq backslash rfl
    refine (ih inWord scanned).cons [c, d] (by simp [one, Nat.add_assoc]) fun L' rest => ?_
    rw [List.cons_append, List.singleton_append, scan.eq_7, if_pos backslash]
    rfl
  case case9 pos c cs plain closing ih =>
    intro s ts inWord scanned
    have one : c.utf8Size = 1 := utf8Size_of_beq closing rfl
    refine (ih inWord scanned).cons [c] (by simp [one]) fun L' rest => ?_
    rw [List.singleton_append, scan_double_char (by simpa using plain), if_pos closing]
  case case10 pos c cs plain inside ih =>
    intro s ts inWord scanned
    refine (ih inWord scanned).cons [c] (by simp) fun L' rest => ?_
    rw [List.singleton_append, scan_double_char (by simpa using plain), if_neg inside]
  -- outside quotes the word is bare: it ends at an operator or a blank, or goes on
  case case11 pos c cs notSingle notDouble kind width lead ih =>
    intro s ts inWord scanned
    have unquoted := Mode.Unquoted.intro notSingle notDouble
    obtain ⟨t, q, rfl⟩ := unquoted.eq_bare inWord
    obtain ⟨rest, after, rfl⟩ := withOperator_eq_ok.mp scanned
    refine ReadsFirst.here ?_
    rw [scan_gap_operator lead, after]
    rfl
  case case12 pos c cs notSingle notDouble op width lead ih =>
    intro s ts inWord scanned
    have unquoted := Mode.Unquoted.intro notSingle notDouble
    obtain ⟨t, q, rfl⟩ := unquoted.eq_bare inWord
    cases desc : (Mode.bare s t q).descriptor? with
    | none =>
      -- a word that is no descriptor ends where the operator starts
      obtain ⟨rest, after, rfl⟩ := (withRedirect_eq_ok_of_none desc).mp scanned
      refine ReadsFirst.here ?_
      rw [scan_redirect Mode.unquoted_gap lead, withRedirect_eq_ok_of_none rfl]
      exact ⟨rest, after, rfl⟩
    | some d =>
      -- a descriptor word and the operator are one token
      obtain ⟨s', text, v⟩ := d
      obtain ⟨_, _, same⟩ := Mode.eq_bare_of_descriptor desc
      cases same
      obtain ⟨small, rest, after, rfl⟩ := (withRedirect_eq_ok_of_descriptor desc).mp scanned
      obtain ⟨lead', bytes, -⟩ := leadOf_redirect_take lead
      refine ⟨c :: cs.take (width - 1), cs.drop (width - 1), _, rest, by simp, rfl,
        by simp [bytes], by rw [bytes, after], fun L' => ?_⟩
      rw [scan_redirect unquoted lead', withRedirect_eq_ok_of_descriptor desc,
        List.drop_eq_nil_of_le (by simp), scan.eq_1]
      exact ⟨small, [], rfl, rfl⟩
  case case13 pos c cs notSingle notDouble lead start text _ word ih =>
    intro s ts inWord scanned
    have unquoted := Mode.Unquoted.intro notSingle notDouble
    obtain ⟨t, q, rfl⟩ := unquoted.eq_bare inWord
    cases word
    have one : c.utf8Size = 1 := by rw [eq_of_leadOf_single lead]; rfl
    refine (ih rfl scanned).cons [c] (by simp [one]) fun L' rest => ?_
    rw [List.singleton_append, scan_opening_single unquoted (leadOf_next lead (by simp) (by simp) _)]
    rfl
  case case14 pos c cs notSingle notDouble lead start text _ word ih =>
    intro s ts inWord scanned
    have unquoted := Mode.Unquoted.intro notSingle notDouble
    obtain ⟨t, q, rfl⟩ := unquoted.eq_bare inWord
    cases word
    have one : c.utf8Size = 1 := by rw [eq_of_leadOf_double lead]; rfl
    refine (ih rfl scanned).cons [c] (by simp [one]) fun L' rest => ?_
    rw [List.singleton_append, scan_opening_double unquoted (leadOf_next lead (by simp) (by simp) _)]
    rfl
  case case15 pos c cs notSingle notDouble lead ih =>
    intro s ts inWord scanned
    have unquoted := Mode.Unquoted.intro notSingle notDouble
    obtain ⟨t, q, rfl⟩ := unquoted.eq_bare inWord
    obtain ⟨rest, after, rfl⟩ := map_append_eq_ok.mp scanned
    exact ReadsFirst.here (by rw [scan_gap_blank lead, after]; rfl)
  case case17 pos c notSingle notDouble start text _ word d ds lead ih =>
    intro s ts inWord scanned
    have unquoted := Mode.Unquoted.intro notSingle notDouble
    obtain ⟨t, q, rfl⟩ := unquoted.eq_bare inWord
    cases word
    have one : c.utf8Size = 1 := by rw [(eq_of_leadOf_escape lead).1]; rfl
    refine (ih rfl scanned).cons [c, d] (by simp [one, Nat.add_assoc]) fun L' rest => ?_
    rw [List.cons_append, List.singleton_append, scan_escape unquoted (by simpa using lead)]
    rfl
  case case18 pos c cs notSingle notDouble lead start text _ word ih =>
    intro s ts inWord scanned
    have unquoted := Mode.Unquoted.intro notSingle notDouble
    obtain ⟨t, q, rfl⟩ := unquoted.eq_bare inWord
    cases word
    refine (ih rfl scanned).cons [c] (by simp) fun L' rest => ?_
    rw [List.singleton_append, scan_plain unquoted (leadOf_next lead (by simp) (by simp) _)]
    rfl

/-- Between words, a successful scan of a character that is no blank reads a first token, which
starts at that character. -/
theorem scan_gap_token {w : Bool} {L p : Nat} {c : Char} {cs : List Char} {ts : List Token}
    (notBlank : leadOf w c cs.head? ≠ .blank) (scanned : scan w L .gap p (c :: cs) = .ok ts) :
    ReadsFirst w L .gap p p (c :: cs) ts := by
  cases lead : leadOf w c cs.head? with
  | operator kind width =>
    rw [scan_operator Mode.unquoted_gap lead] at scanned
    obtain ⟨rest, after, rfl⟩ := withOperator_eq_ok.mp scanned
    obtain ⟨lead', bytes⟩ := leadOf_operator_take lead
    refine ⟨c :: cs.take (width - 1), cs.drop (width - 1), _, rest, by simp, rfl,
      by simp [bytes], by rw [bytes, after], fun L' => ?_⟩
    rw [scan_operator Mode.unquoted_gap lead', List.drop_eq_nil_of_le (by simp), scan.eq_1]
    rfl
  | redirect op width =>
    rw [scan_redirect Mode.unquoted_gap lead] at scanned
    obtain ⟨rest, after, rfl⟩ := (withRedirect_eq_ok_of_none rfl).mp scanned
    obtain ⟨lead', bytes, -⟩ := leadOf_redirect_take lead
    refine ⟨c :: cs.take (width - 1), cs.drop (width - 1), _, rest, by simp, rfl,
      by simp [bytes], by rw [bytes, after], fun L' => ?_⟩
    rw [scan_redirect Mode.unquoted_gap lead', List.drop_eq_nil_of_le (by simp), scan.eq_1]
    rfl
  | single =>
    rw [scan_opening_single Mode.unquoted_gap lead] at scanned
    have one : c.utf8Size = 1 := by rw [eq_of_leadOf_single lead]; rfl
    refine (scan_word _ _ _ _ _ rfl scanned).cons [c] (by simp [one]) fun L' rest => ?_
    rw [List.singleton_append,
      scan_opening_single Mode.unquoted_gap (leadOf_next lead (by simp) (by simp) _)]
  | double =>
    rw [scan_opening_double Mode.unquoted_gap lead] at scanned
    have one : c.utf8Size = 1 := by rw [eq_of_leadOf_double lead]; rfl
    refine (scan_word _ _ _ _ _ rfl scanned).cons [c] (by simp [one]) fun L' rest => ?_
    rw [List.singleton_append,
      scan_opening_double Mode.unquoted_gap (leadOf_next lead (by simp) (by simp) _)]
  | blank => exact absurd lead notBlank
  | escape =>
    cases cs with
    | nil => rw [scan_escape_end Mode.unquoted_gap lead] at scanned; cases scanned
    | cons d ds =>
      rw [scan_escape Mode.unquoted_gap lead] at scanned
      have one : c.utf8Size = 1 := by rw [(eq_of_leadOf_escape lead).1]; rfl
      refine (scan_word _ _ _ _ _ rfl scanned).cons [c, d] (by simp [one, Nat.add_assoc])
        fun L' rest => ?_
      rw [List.cons_append, List.singleton_append,
        scan_escape Mode.unquoted_gap (by simpa using lead)]
  | plain =>
    rw [scan_plain Mode.unquoted_gap lead] at scanned
    refine (scan_word _ _ _ _ _ rfl scanned).cons [c] (by simp) fun L' rest => ?_
    rw [List.singleton_append, scan_plain Mode.unquoted_gap (leadOf_next lead (by simp) (by simp) _)]

end Pipework.Shell
