import Pipework.Proofs.Shell.TokenText

/-! The escape mode of Windows paths, against the POSIX one. -/

namespace Pipework.Shell

open Pipework.Text

/-! ### What a run says, without where -/

/-- What a lexer error says is wrong, without where: its kind, and for a descriptor that does
not fit, its digits. -/
inductive LexError.Kind where
  | unterminatedSingleQuote
  | unterminatedDoubleQuote
  | trailingBackslash
  | invalidDescriptor (text : String)
  deriving DecidableEq

/-- The kind of a lexer error. -/
def LexError.kind : LexError → LexError.Kind
  | .unterminatedSingleQuote _ => .unterminatedSingleQuote
  | .unterminatedDoubleQuote _ => .unterminatedDoubleQuote
  | .trailingBackslash _ => .trailingBackslash
  | .invalidDescriptor text _ => .invalidDescriptor text

/-- What a lexer result says without where: the kinds of its tokens, or the kind of its error. -/
def kinds : Except LexError (List Token) → Except LexError.Kind (List TokenKind)
  | .ok ts => .ok (ts.map Token.kind)
  | .error e => .error e.kind

@[simp] theorem kinds_ok (ts : List Token) : kinds (.ok ts) = .ok (ts.map Token.kind) := rfl

@[simp] theorem kinds_error (e : LexError) : kinds (.error e) = .error e.kind := rfl

/-! ### Doubling the backslashes read outside quotes -/

/-- Which quotes a scan of a line stands in. -/
inductive Quoting where
  | outside
  | single
  | double

/-- The quotes a state of the lexer stands in: none between words and in a bare part. -/
def Mode.quoting : Mode → Quoting
  | .gap | .bare .. => .outside
  | .single .. => .single
  | .double .. => .double

/-- The text with every backslash that stands outside quotes doubled, from a scan that stands in
the quotes given. Quotes open and close as the lexer reads them: a single-quoted part ends at the
next single quote, and in a double-quoted one a backslash takes the next character along, so an
escaped double quote does not close it. -/
def doubleBackslashes : Quoting → List Char → List Char
  | _, [] => []
  | .outside, c :: cs =>
    if c = '\\' then '\\' :: '\\' :: doubleBackslashes .outside cs
    else if c = '\'' then c :: doubleBackslashes .single cs
    else if c = '"' then c :: doubleBackslashes .double cs
    else c :: doubleBackslashes .outside cs
  | .single, c :: cs => c :: doubleBackslashes (if c = '\'' then .outside else .single) cs
  | .double, '\\' :: d :: ds => '\\' :: d :: doubleBackslashes .double ds
  | .double, c :: cs => c :: doubleBackslashes (if c = '"' then .outside else .double) cs

theorem doubleBackslashes_outside_plain {c : Char} (cs : List Char) (plain : c ≠ '\\')
    (notSingle : c ≠ '\'') (notDouble : c ≠ '"') :
    doubleBackslashes .outside (c :: cs) = c :: doubleBackslashes .outside cs := by
  rw [doubleBackslashes.eq_2, if_neg plain, if_neg notSingle, if_neg notDouble]

theorem doubleBackslashes_outside_backslash (cs : List Char) :
    doubleBackslashes .outside ('\\' :: cs) = '\\' :: '\\' :: doubleBackslashes .outside cs := by
  rw [doubleBackslashes.eq_2, if_pos rfl]

theorem doubleBackslashes_outside_single (cs : List Char) :
    doubleBackslashes .outside ('\'' :: cs) = '\'' :: doubleBackslashes .single cs := by
  rw [doubleBackslashes.eq_2, if_neg (by decide), if_pos rfl]

theorem doubleBackslashes_outside_double (cs : List Char) :
    doubleBackslashes .outside ('"' :: cs) = '"' :: doubleBackslashes .double cs := by
  rw [doubleBackslashes.eq_2, if_neg (by decide), if_neg (by decide), if_pos rfl]

/-- Between double quotes a character other than a backslash is kept, and a double quote closes
the quotes. -/
theorem doubleBackslashes_double_plain {c : Char} (cs : List Char) (plain : c ≠ '\\') :
    doubleBackslashes .double (c :: cs) =
      c :: doubleBackslashes (if c = '"' then .outside else .double) cs :=
  doubleBackslashes.eq_5 c cs fun _ _ backslash _ => plain backslash

theorem doubleBackslashes_double_last (c : Char) : doubleBackslashes .double [c] = [c] := by
  rw [doubleBackslashes.eq_5 c [] (fun _ _ _ empty => nomatch empty), doubleBackslashes.eq_1]

theorem head?_doubleBackslashes (q : Quoting) (cs : List Char) :
    (doubleBackslashes q cs).head? = cs.head? := by
  rcases cs with _ | ⟨c, cs⟩
  · rw [doubleBackslashes.eq_1]
  · cases q with
    | outside =>
      rw [doubleBackslashes.eq_2]
      split_ifs with backslash
      · rw [backslash]; rfl
      all_goals rfl
    | single => rw [doubleBackslashes.eq_3]; rfl
    | double =>
      by_cases backslash : c = '\\'
      · subst backslash
        rcases cs with _ | ⟨d, ds⟩
        · rw [doubleBackslashes_double_last]
        · rw [doubleBackslashes.eq_4]; rfl
      · rw [doubleBackslashes_double_plain cs backslash]; rfl

/-! ### Two scans side by side -/

/-- Two states of the lexer in the same quotes that have read the same word so far, wherever
they stand in their lines. -/
inductive Mode.Matches : Mode → Mode → Prop where
  | gap : Mode.Matches .gap .gap
  | bare {s s' : Nat} {t : String} {q : Bool} : Mode.Matches (.bare s t q) (.bare s' t q)
  | single {s s' o o' : Nat} {t : String} : Mode.Matches (.single s t o) (.single s' t o')
  | double {s s' o o' : Nat} {t : String} : Mode.Matches (.double s t o) (.double s' t o')

theorem Mode.Unquoted.quoting {m : Mode} (unquoted : m.Unquoted) : m.quoting = .outside := by
  cases m with
  | gap | bare => rfl
  | single s t o => exact absurd rfl (unquoted.not_single s t o)
  | double s t o => exact absurd rfl (unquoted.not_double s t o)

namespace Mode.Matches

variable {m m' : Mode}

theorem unquoted (same : m.Matches m') (unquoted : m.Unquoted) : m'.Unquoted := by
  cases same with
  | gap => exact Mode.unquoted_gap
  | bare => exact Mode.unquoted_bare _ _ _
  | single => exact absurd rfl (unquoted.not_single _ _ _)
  | double => exact absurd rfl (unquoted.not_double _ _ _)

theorem finish (same : m.Matches m') (p p' : Nat) :
    (m.finish p).map Token.kind = (m'.finish p').map Token.kind := by
  cases same <;> simp only [Mode.finish, List.map_cons, List.map_nil, wordToken]
  split <;> rfl

theorem word (same : m.Matches m') (p p' : Nat) : (m.word p).2 = (m'.word p').2 := by
  cases same <;> rfl

theorem word_eq (same : m.Matches m') {p s : Nat} {t : String} {q : Bool}
    (word : m.word p = (s, t, q)) (p' : Nat) : (m'.word p').2 = (t, q) := by
  rw [← same.word p p', word]

theorem descriptor? (same : m.Matches m') :
    (m.descriptor? = none ∧ m'.descriptor? = none) ∨
      ∃ s s' text value, m.descriptor? = some (s, text, value) ∧
        m'.descriptor? = some (s', text, value) := by
  cases same with
  | bare =>
    simp only [Mode.descriptor?]
    split
    · exact .inr ⟨_, _, _, _, rfl, rfl⟩
    · exact .inl ⟨rfl, rfl⟩
  | gap | single | double => exact .inl ⟨rfl, rfl⟩

end Mode.Matches

theorem kinds_withOperator {m m' : Mode} (same : m.Matches m') (p p' : Nat) (kind : TokenKind)
    (span span' : Span) {r r' : Except LexError (List Token)} (rest : kinds r = kinds r') :
    kinds (m.withOperator p ⟨kind, span⟩ r) = kinds (m'.withOperator p' ⟨kind, span'⟩ r') := by
  cases r <;> cases r' <;> simp_all [Mode.withOperator, Except.map, same.finish p p']

/-- A redirection operator read from states with the same word takes the same digits as its
descriptor, or refuses the same digits, and says the same when what follows it does. -/
theorem kinds_withRedirect {m m' : Mode} (same : m.Matches m') (p p' width : Nat) (op : RedirectOp)
    {r r' : Except LexError (List Token)} (rest : kinds r = kinds r') :
    kinds (m.withRedirect p width op r) = kinds (m'.withRedirect p' width op r') := by
  unfold Mode.withRedirect
  rcases same.descriptor? with ⟨none, none'⟩ | ⟨s, s', text, value, found, found'⟩
  · rw [none, none']
    cases r <;> cases r' <;> simp_all [Except.map, same.finish p p']
  · rw [found, found']
    dsimp only
    by_cases large : maxDescriptor < value
    · rw [if_pos large, if_pos large]
      rfl
    · rw [if_neg large, if_neg large]
      cases r <;> cases r' <;> simp_all [Except.map]

theorem kinds_map_append {front front' : List Token}
    (kind : front.map Token.kind = front'.map Token.kind) {r r' : Except LexError (List Token)}
    (rest : kinds r = kinds r') : kinds ((front ++ ·) <$> r) = kinds ((front' ++ ·) <$> r') := by
  cases r <;> cases r' <;> simp_all [Functor.map, Except.map]

/-! ### Leads in the two modes -/

theorem leadOf_win32 {c : Char} (plain : c ≠ '\\') (n : Option Char) :
    leadOf true c n = leadOf false c n := by
  simp [leadOf, plain]

theorem leadOf_backslash (n : Option Char) : leadOf false '\\' n = .escape := by
  simp [leadOf, isBlank]

/-- A character other than a backslash leads to the same step in the POSIX mode, whatever was
doubled after it. -/
theorem leadOf_doubled {c : Char} {cs : List Char} {x : Lead} (plain : c ≠ '\\') (q : Quoting)
    (lead : leadOf true c cs.head? = x) : leadOf false c (doubleBackslashes q cs).head? = x := by
  rw [head?_doubleBackslashes, ← leadOf_win32 plain, lead]

theorem plain_of_leadOf {w : Bool} {c : Char} {n : Option Char} {x : Lead} (lead : leadOf w c n = x)
    (notSingle : x ≠ .single) (notDouble : x ≠ .double) (notEscape : x ≠ .escape)
    (notPlain : x ≠ .plain) : c ≠ '\\' ∧ c ≠ '\'' ∧ c ≠ '"' := by
  refine ⟨fun backslash => ?_, fun quote => ?_, fun quote => ?_⟩
  · subst backslash
    cases w <;> simp [leadOf, isBlank] at lead
    · exact notEscape lead.symm
    · exact notPlain lead.symm
  · subst quote
    simp [leadOf] at lead
    exact notSingle lead.symm
  · subst quote
    simp [leadOf] at lead
    exact notDouble lead.symm

theorem not_quote_of_leadOf_plain {w : Bool} {c : Char} {n : Option Char}
    (lead : leadOf w c n = .plain) : c ≠ '\'' ∧ c ≠ '"' := by
  refine ⟨?_, ?_⟩ <;> rintro rfl <;> simp [leadOf] at lead

/-- Only `||`, `&&`, `&>`, `>>`, `>&` and `<&` take a second character, and it is `|`, `&` or
`>`. -/
theorem leadOf_wide {w : Bool} {c d : Char} {width : Nat}
    (wide : (∃ kind, leadOf w c (some d) = .operator kind width) ∨
      ∃ op, leadOf w c (some d) = .redirect op width) :
    width = 1 ∨ (width = 2 ∧ (d = '|' ∨ d = '&' ∨ d = '>')) := by
  rcases wide with ⟨kind, lead⟩ | ⟨op, lead⟩
  · rcases leadOf_operator_char lead with rfl | rfl | rfl <;> simp [leadOf, ite_eq_iff] at lead <;>
      grind
  · rcases leadOf_redirect_char lead with rfl | rfl <;> simp [leadOf, ite_eq_iff] at lead <;>
      grind

/-- The characters of an operator after its first neither escape nor open quotes, so doubling
the text after the first character keeps them and starts again behind them. -/
theorem doubleBackslashes_drop {w : Bool} {c : Char} {cs : List Char} {width : Nat}
    (wide : (∃ kind, leadOf w c cs.head? = .operator kind width) ∨
      ∃ op, leadOf w c cs.head? = .redirect op width) :
    (doubleBackslashes .outside cs).drop (width - 1) =
      doubleBackslashes .outside (cs.drop (width - 1)) := by
  rcases cs with _ | ⟨d, ds⟩
  · simp only [doubleBackslashes.eq_1, List.drop_nil]
  · rcases leadOf_wide wide with rfl | ⟨rfl, second⟩
    · rfl
    · have plain : d ≠ '\\' ∧ d ≠ '\'' ∧ d ≠ '"' := by
        rcases second with rfl | rfl | rfl <;> decide
      rw [doubleBackslashes_outside_plain ds plain.1 plain.2.1 plain.2.2]
      rfl

/-! ### The simulation -/

/-- Each step of the Windows scan is a step of the POSIX scan on the text with the backslashes
outside quotes doubled, from states that have read the same word; so the two runs say the same,
at whatever offsets they start and wherever their lines end. -/
theorem scan_win32_kinds (L L' : Nat) (m : Mode) (p : Nat) (cs : List Char) :
    ∀ {m' : Mode} (p' : Nat), m.Matches m' →
      kinds (scan true L m p cs) = kinds (scan false L' m' p' (doubleBackslashes m.quoting cs)) := by
  fun_induction scan true L m p cs
  -- at the end of the line a word ends, or quotes are left open, in both
  case case1 =>
    rintro m' p' ⟨⟩
    simp [scan.eq_1, doubleBackslashes.eq_1]
  case case2 =>
    rintro m' p' ⟨⟩
    simp only [scan.eq_2, Mode.quoting, doubleBackslashes.eq_1, kinds_ok, List.map_cons,
      List.map_nil, wordToken]
    split <;> rfl
  case case3 =>
    rintro m' p' ⟨⟩
    simp [scan.eq_3, Mode.quoting, doubleBackslashes.eq_1, LexError.kind]
  case case4 =>
    rintro m' p' ⟨⟩
    simp [scan.eq_4, Mode.quoting, doubleBackslashes.eq_1, LexError.kind]
  -- between quotes both modes take the same step
  case case5 start text opened pos c cs closing ih =>
    rintro m' p' ⟨⟩
    have quote : c = '\'' := by simpa using closing
    rw [Mode.quoting, doubleBackslashes.eq_3, if_pos quote, scan.eq_5, if_pos closing]
    exact ih (p' + 1) .bare
  case case6 start text opened pos c cs inside ih =>
    rintro m' p' ⟨⟩
    have other : c ≠ '\'' := by simpa using inside
    rw [Mode.quoting, doubleBackslashes.eq_3, if_neg other, scan.eq_5, if_neg inside]
    exact ih (p' + c.utf8Size) .single
  case case7 start text opened pos c backslash =>
    rintro m' p' ⟨⟩
    obtain rfl : c = '\\' := by simpa using backslash
    rw [Mode.quoting, doubleBackslashes_double_last, scan.eq_6, if_pos backslash]
    rfl
  case case8 start text opened pos c backslash d ds kept ih =>
    rintro m' p' ⟨⟩
    obtain rfl : c = '\\' := by simpa using backslash
    rw [Mode.quoting, doubleBackslashes.eq_4, scan.eq_7, if_pos backslash]
    exact ih (p' + 1 + d.utf8Size) .double
  case case9 start text opened pos c cs plain closing ih =>
    rintro m' p' ⟨⟩
    have notBackslash : c ≠ '\\' := by simpa using plain
    have quote : c = '"' := by simpa using closing
    rw [Mode.quoting, doubleBackslashes_double_plain cs notBackslash, if_pos quote,
      scan_double_char notBackslash, if_pos closing]
    exact ih (p' + 1) .bare
  case case10 start text opened pos c cs plain inside ih =>
    rintro m' p' ⟨⟩
    have notBackslash : c ≠ '\\' := by simpa using plain
    have other : c ≠ '"' := by simpa using inside
    rw [Mode.quoting, doubleBackslashes_double_plain cs notBackslash, if_neg other,
      scan_double_char notBackslash, if_neg inside]
    exact ih (p' + c.utf8Size) .double
  -- outside quotes: operators, quotes, blanks and characters other than a backslash lead to the
  -- same step in both modes, and a backslash is a plain character against an escaped one
  case case11 mode pos c cs notSingle notDouble kind width lead ih =>
    intro m' p' same
    have unquoted := Mode.Unquoted.intro notSingle notDouble
    obtain ⟨plain, notSingleQuote, notDoubleQuote⟩ :=
      plain_of_leadOf lead (by simp) (by simp) (by simp) (by simp)
    rw [unquoted.quoting, doubleBackslashes_outside_plain cs plain notSingleQuote notDoubleQuote,
      scan_operator (same.unquoted unquoted) (leadOf_doubled plain _ lead),
      doubleBackslashes_drop (.inl ⟨kind, lead⟩)]
    exact kinds_withOperator same pos p' kind _ _ (ih (p' + width) .gap)
  case case12 mode pos c cs notSingle notDouble op width lead ih =>
    intro m' p' same
    have unquoted := Mode.Unquoted.intro notSingle notDouble
    obtain ⟨plain, notSingleQuote, notDoubleQuote⟩ :=
      plain_of_leadOf lead (by simp) (by simp) (by simp) (by simp)
    rw [unquoted.quoting, doubleBackslashes_outside_plain cs plain notSingleQuote notDoubleQuote,
      scan_redirect (same.unquoted unquoted) (leadOf_doubled plain _ lead),
      doubleBackslashes_drop (.inr ⟨op, lead⟩)]
    exact kinds_withRedirect same pos p' width op (ih (p' + width) .gap)
  case case13 mode pos c cs notSingle notDouble lead start text quoted word ih =>
    intro m' p' same
    have unquoted := Mode.Unquoted.intro notSingle notDouble
    obtain rfl := eq_of_leadOf_single lead
    rw [unquoted.quoting, doubleBackslashes_outside_single,
      scan_opening_single (same.unquoted unquoted) (leadOf_doubled (by decide) _ lead),
      show (m'.word p').2.1 = text by rw [same.word_eq word p']]
    exact ih (p' + 1) .single
  case case14 mode pos c cs notSingle notDouble lead start text quoted word ih =>
    intro m' p' same
    have unquoted := Mode.Unquoted.intro notSingle notDouble
    obtain rfl := eq_of_leadOf_double lead
    rw [unquoted.quoting, doubleBackslashes_outside_double,
      scan_opening_double (same.unquoted unquoted) (leadOf_doubled (by decide) _ lead),
      show (m'.word p').2.1 = text by rw [same.word_eq word p']]
    exact ih (p' + 1) .double
  case case15 mode pos c cs notSingle notDouble lead ih =>
    intro m' p' same
    have unquoted := Mode.Unquoted.intro notSingle notDouble
    obtain ⟨plain, notSingleQuote, notDoubleQuote⟩ :=
      plain_of_leadOf lead (by simp) (by simp) (by simp) (by simp)
    rw [unquoted.quoting, doubleBackslashes_outside_plain cs plain notSingleQuote notDoubleQuote,
      scan_blank (same.unquoted unquoted) (leadOf_doubled plain _ lead)]
    exact kinds_map_append (same.finish pos p') (ih (p' + c.utf8Size) .gap)
  -- the Windows mode never escapes
  case case16 mode pos c notSingle notDouble start text quoted word lead =>
    exact absurd (eq_of_leadOf_escape lead).2 (by decide)
  case case17 mode pos c notSingle notDouble start text quoted word d ds lead ih =>
    exact absurd (eq_of_leadOf_escape lead).2 (by decide)
  case case18 mode pos c cs notSingle notDouble lead start text quoted word ih =>
    intro m' p' same
    have unquoted := Mode.Unquoted.intro notSingle notDouble
    have texts : (m'.word p').2 = (text, quoted) := same.word_eq word p'
    by_cases backslash : c = '\\'
    · -- a plain backslash against a backslash escaped by the one doubled in front of it
      subst backslash
      rw [unquoted.quoting, doubleBackslashes_outside_backslash,
        scan_escape (same.unquoted unquoted) (leadOf_backslash _), texts]
      exact ih (p' + 1 + '\\'.utf8Size) .bare
    · obtain ⟨notSingleQuote, notDoubleQuote⟩ := not_quote_of_leadOf_plain lead
      rw [unquoted.quoting, doubleBackslashes_outside_plain cs backslash notSingleQuote notDoubleQuote,
        scan_plain (same.unquoted unquoted) (leadOf_doubled backslash _ lead), texts]
      exact ih (p' + c.utf8Size) .bare

/-- A line read in the escape mode of Windows paths gives the tokens, or the error, that the
POSIX mode gives for the line with every backslash read outside quotes doubled. -/
theorem lex_win32_kinds (line : String) :
    kinds (lex line true) =
      kinds (lex (String.ofList (doubleBackslashes .outside line.toList)) false) := by
  unfold lex
  rw [String.toList_ofList]
  exact scan_win32_kinds _ _ .gap 0 line.toList 0 .gap

end Pipework.Shell
