import Pipework.Proofs.Shell.Grammar

/-! What the lexer does with the pieces of a line. -/

namespace Pipework.Shell

open Pipework.Text

/-- Outside quotes: between words or in the bare part of one. -/
def Mode.Unquoted (m : Mode) : Prop :=
  ∀ s t o, m ≠ .single s t o ∧ m ≠ .double s t o

theorem Mode.unquoted_gap : Mode.gap.Unquoted := by
  intro s t o
  simp

theorem Mode.unquoted_bare (s : Nat) (t : String) (q : Bool) : (Mode.bare s t q).Unquoted := by
  intro s' t' o
  simp

theorem Mode.Unquoted.not_single {m : Mode} (unquoted : m.Unquoted) :
    ∀ s t o, m = .single s t o → False :=
  fun s t o same => (unquoted s t o).1 same

theorem Mode.Unquoted.not_double {m : Mode} (unquoted : m.Unquoted) :
    ∀ s t o, m = .double s t o → False :=
  fun s t o same => (unquoted s t o).2 same

section Leads

variable {w : Bool} {L p : Nat} {m : Mode} {c : Char} {cs : List Char}

theorem scan_operator (unquoted : m.Unquoted) {kind : TokenKind} {width : Nat}
    (lead : leadOf w c cs.head? = .operator kind width) :
    scan w L m p (c :: cs) =
      m.withOperator p ⟨kind, ⟨p, p + width⟩⟩ (scan w L .gap (p + width) (cs.drop (width - 1))) := by
  rw [scan.eq_8 w L m p c cs unquoted.not_single unquoted.not_double]
  simp only [lead]

theorem scan_redirect (unquoted : m.Unquoted) {op : RedirectOp} {width : Nat}
    (lead : leadOf w c cs.head? = .redirect op width) :
    scan w L m p (c :: cs) =
      m.withRedirect p width op (scan w L .gap (p + width) (cs.drop (width - 1))) := by
  rw [scan.eq_8 w L m p c cs unquoted.not_single unquoted.not_double]
  simp only [lead]

theorem scan_opening_single (unquoted : m.Unquoted) (lead : leadOf w c cs.head? = .single) :
    scan w L m p (c :: cs) =
      scan w L (.single (m.word p).1 (m.word p).2.1 p) (p + 1) cs := by
  rw [scan.eq_8 w L m p c cs unquoted.not_single unquoted.not_double]
  simp only [lead]

theorem scan_opening_double (unquoted : m.Unquoted) (lead : leadOf w c cs.head? = .double) :
    scan w L m p (c :: cs) =
      scan w L (.double (m.word p).1 (m.word p).2.1 p) (p + 1) cs := by
  rw [scan.eq_8 w L m p c cs unquoted.not_single unquoted.not_double]
  simp only [lead]

theorem scan_blank (unquoted : m.Unquoted) (lead : leadOf w c cs.head? = .blank) :
    scan w L m p (c :: cs) = (m.finish p ++ ·) <$> scan w L .gap (p + c.utf8Size) cs := by
  rw [scan.eq_8 w L m p c cs unquoted.not_single unquoted.not_double]
  simp only [lead]

theorem scan_plain (unquoted : m.Unquoted) (lead : leadOf w c cs.head? = .plain) :
    scan w L m p (c :: cs) =
      scan w L (.bare (m.word p).1 ((m.word p).2.1.push c) (m.word p).2.2) (p + c.utf8Size) cs := by
  rw [scan.eq_8 w L m p c cs unquoted.not_single unquoted.not_double]
  simp only [lead]

end Leads

/-! ### Which characters lead to what -/

theorem leadOf_space (w : Bool) (next : Option Char) : leadOf w ' ' next = .blank := by
  simp [leadOf, isBlank]

theorem leadOf_newline (w : Bool) (next : Option Char) : leadOf w '\n' next = .blank := by
  simp [leadOf, isBlank]

theorem leadOf_digit {w : Bool} {c : Char} (digit : c.isDigit = true) (next : Option Char) :
    leadOf w c next = .plain := by
  have range : 48 ≤ c.toNat ∧ c.toNat ≤ 57 := by
    simp only [Char.isDigit, Bool.and_eq_true, decide_eq_true_eq] at digit
    exact digit
  -- every character the lexer treats apart lies outside `'0'` to `'9'`
  have apart : ∀ d : Char, d.toNat < 48 ∨ 57 < d.toNat → c ≠ d := by
    rintro d outside rfl
    omega
  have notBlank : isBlank c = false := by
    simp only [isBlank, Bool.or_eq_false_iff, Bool.and_eq_false_iff, decide_eq_false_iff_not,
      beq_eq_false_iff_ne, ne_eq]
    omega
  simp [leadOf, apart '|' (by decide), apart '&' (by decide), apart ';' (by decide),
    apart '>' (by decide), apart '<' (by decide), apart '\'' (by decide), apart '"' (by decide),
    apart '\\' (by decide), notBlank]

theorem leadOf_bang (w : Bool) (next : Option Char) : leadOf w '!' next = .plain := by
  simp [leadOf, isBlank]

/-! ### Quoted bodies -/

theorem push_append_ofList (t : String) (c : Char) (body : List Char) :
    t.push c ++ String.ofList body = t ++ String.ofList (c :: body) :=
  String.ext (by simp)

theorem scan_double_char {w : Bool} {L s o p : Nat} {t : String} {c : Char} {cs : List Char}
    (plain : c ≠ '\\') :
    scan w L (.double s t o) p (c :: cs) =
      if c == '"' then scan w L (.bare s t true) (p + 1) cs
      else scan w L (.double s (t.push c) o) (p + c.utf8Size) cs := by
  cases cs with
  | nil => simp [scan.eq_6, plain]
  | cons d ds => simp [scan.eq_7, plain]

/-- Between single quotes every character up to the closing quote is taken as it is, and the
scanner goes on right after that quote. -/
theorem scan_single_body (w : Bool) (L : Nat) (s : Nat) (o : Nat) (rest : List Char) :
    ∀ (body : List Char) (t : String) (p : Nat), '\'' ∉ body →
      scan w L (.single s t o) p (body ++ '\'' :: rest) =
        scan w L (.bare s (t ++ String.ofList body) true) (p + byteSize body + 1) rest
  | [], t, p, _ => by simp [scan]
  | c :: body, t, p, absent => by
    have notQuote : c ≠ '\'' := fun same => absent (same ▸ List.mem_cons_self)
    have rest_eq := scan_single_body w L s o rest body (t.push c) (p + c.utf8Size)
      (fun h => absent (List.mem_cons_of_mem c h))
    rw [List.cons_append, scan.eq_5, if_neg (by simpa using notQuote), rest_eq,
      push_append_ofList, byteSize_cons, Nat.add_assoc p]

/-- `DoubleQuoted cs content rest`: after an opening double quote, the characters `cs` close
the quotes with `content` between them and leave `rest`; a backslash keeps the next character
alone when that is a double quote or a backslash, and both otherwise. -/
inductive DoubleQuoted : List Char → List Char → List Char → Prop where
  | close (rest : List Char) : DoubleQuoted ('"' :: rest) [] rest
  | escape (d : Char) {ds content rest : List Char} (body : DoubleQuoted ds content rest) :
      DoubleQuoted ('\\' :: d :: ds)
        ((if d == '"' || d == '\\' then [d] else ['\\', d]) ++ content) rest
  | char {c : Char} {cs content rest : List Char} (plain : c ≠ '\\' ∧ c ≠ '"')
      (body : DoubleQuoted cs content rest) : DoubleQuoted (c :: cs) (c :: content) rest

theorem DoubleQuoted.append {cs content rest : List Char} (quoted : DoubleQuoted cs content rest)
    (more : List Char) : DoubleQuoted (cs ++ more) content (rest ++ more) := by
  induction quoted with
  | close rest => exact .close _
  | escape d _ ih => exact .escape d ih
  | char plain _ ih => exact .char plain ih

/-- Between double quotes the scanner reads what `DoubleQuoted` says and goes on after the
closing quote in the bare part of the word, as many bytes further on as it read. -/
theorem DoubleQuoted.scan {cs content rest : List Char} (quoted : DoubleQuoted cs content rest)
    (w : Bool) (L s o : Nat) :
    ∀ (t : String) (p : Nat), ∃ p', Shell.scan w L (.double s t o) p cs =
      Shell.scan w L (.bare s (t ++ String.ofList content) true) p' rest ∧
        p' + byteSize rest = p + byteSize cs := by
  have quoteSize : '"'.utf8Size = 1 := rfl
  have backslashSize : '\\'.utf8Size = 1 := rfl
  induction quoted with
  | close rest =>
    intro t p
    refine ⟨p + 1, by simp [scan_double_char], ?_⟩
    rw [byteSize_cons, quoteSize]
    omega
  | @escape d ds content rest _ ih =>
    intro t p
    obtain ⟨p', rest_eq, bytes⟩ := ih (if d == '"' || d == '\\' then t.push d else (t.push '\\').push d)
      (p + 1 + d.utf8Size)
    refine ⟨p', ?_, ?_⟩
    · simp only [scan.eq_7, beq_self_eq_true, if_true, rest_eq]
      congr 2
      split <;> exact String.ext (by simp)
    · rw [byteSize_cons, byteSize_cons, backslashSize]
      omega
  | @char c cs content rest plain _ ih =>
    intro t p
    obtain ⟨p', rest_eq, bytes⟩ := ih (t.push c) (p + c.utf8Size)
    refine ⟨p', ?_, ?_⟩
    · rw [scan_double_char plain.1, if_neg (by simpa using plain.2), rest_eq, push_append_ofList]
    · rw [byteSize_cons]
      omega

theorem DoubleQuoted.of_scan {w : Bool} {L s o : Nat} :
    ∀ {cs : List Char} {t : String} {p : Nat} {ts : List Token},
      Shell.scan w L (.double s t o) p cs = .ok ts → ∃ content rest, DoubleQuoted cs content rest
  | [], _, _, _, scanned => by simp [scan.eq_4] at scanned
  | [c], _, _, _, scanned => by
    by_cases backslash : c = '\\'
    · subst backslash
      simp [scan.eq_6] at scanned
    · by_cases quote : c = '"'
      · subst quote
        exact ⟨[], [], .close []⟩
      · rw [scan_double_char backslash, if_neg (by simpa using quote), scan.eq_4] at scanned
        cases scanned
  | c :: d :: ds, _, _, _, scanned => by
    by_cases backslash : c = '\\'
    · subst backslash
      simp only [scan.eq_7, beq_self_eq_true, if_true] at scanned
      obtain ⟨content, rest, quoted⟩ := DoubleQuoted.of_scan scanned
      exact ⟨_, rest, .escape d quoted⟩
    · by_cases quote : c = '"'
      · subst quote
        exact ⟨[], d :: ds, .close _⟩
      · rw [scan_double_char backslash, if_neg (by simpa using quote)] at scanned
        obtain ⟨content, rest, quoted⟩ := DoubleQuoted.of_scan scanned
        exact ⟨c :: content, rest, .char ⟨backslash, quote⟩ quoted⟩

theorem DoubleQuoted.rest_eq_nil {body content rest : List Char} (absent : '"' ∉ body)
    (quoted : DoubleQuoted (body ++ ['"']) content rest) : rest = [] := by
  generalize spelled : body ++ ['"'] = cs at quoted
  induction quoted generalizing body with
  | close rest =>
    cases body with
    | nil => simpa using spelled.symm
    | cons b body =>
      simp only [List.cons_append, List.cons.injEq] at spelled
      exact absurd (spelled.1 ▸ List.mem_cons_self) absent
  | @escape d ds content rest inner ih =>
    match body, spelled with
    | [b], spelled =>
      -- the escaped character would be the closing quote, with nothing left to close
      simp only [List.cons_append, List.nil_append, List.cons.injEq] at spelled
      obtain ⟨-, -, rfl⟩ := spelled
      cases inner
    | b :: b' :: body, spelled =>
      simp only [List.cons_append, List.cons.injEq] at spelled
      exact ih (fun h => absent (List.mem_cons_of_mem _ (List.mem_cons_of_mem _ h))) spelled.2.2
  | @char c cs content rest plain inner ih =>
    cases body with
    | nil =>
      simp only [List.nil_append, List.cons.injEq] at spelled
      exact absurd spelled.1.symm plain.2
    | cons b body =>
      simp only [List.cons_append, List.cons.injEq] at spelled
      exact ih (fun h => absent (List.mem_cons_of_mem _ h)) spelled.2

/-! ### Where words end -/

/-- What may follow a word in a rendered line: the end, a blank, or a pipe at the end of a
line. -/
def Separates (rest : List Char) : Prop :=
  rest = [] ∨ (∃ r, rest = ' ' :: r) ∨ (∃ r, rest = '|' :: '\n' :: r)

theorem leadOf_pipe (w : Bool) : leadOf w '|' (some '\n') = .operator .pipe 1 := by
  simp [leadOf]

theorem scan_bare_separates {w : Bool} {L s p : Nat} {t : String} {q : Bool} {rest : List Char}
    (separates : Separates rest) :
    scan w L (.bare s t q) p rest = (wordToken t q ⟨s, p⟩ :: ·) <$> scan w L .gap p rest := by
  rcases separates with rfl | ⟨r, rfl⟩ | ⟨r, rfl⟩
  · simp [scan.eq_1, scan.eq_2]
  · rw [scan_blank (Mode.unquoted_bare s t q) (leadOf_space w _),
      scan_blank Mode.unquoted_gap (leadOf_space w _)]
    simp [Mode.finish]
  · rw [scan_operator (Mode.unquoted_bare s t q) (leadOf_pipe w),
      scan_operator Mode.unquoted_gap (leadOf_pipe w)]
    simp [Mode.withOperator, Mode.finish, Except.map]
    cases scan w L .gap (p + 1) ('\n' :: r) <;> rfl

/-! ### Between words -/

section Gap

variable {w : Bool} {L p : Nat} {c : Char} {cs : List Char}

theorem scan_gap_operator {kind : TokenKind} {width : Nat}
    (lead : leadOf w c cs.head? = .operator kind width) :
    scan w L .gap p (c :: cs) =
      (⟨kind, ⟨p, p + width⟩⟩ :: ·) <$> scan w L .gap (p + width) (cs.drop (width - 1)) := by
  rw [scan_operator Mode.unquoted_gap lead]
  rfl

theorem scan_gap_blank (lead : leadOf w c cs.head? = .blank) :
    scan w L .gap p (c :: cs) = scan w L .gap (p + c.utf8Size) cs := by
  rw [scan_blank Mode.unquoted_gap lead]
  simp [Mode.finish]

theorem scan_gap_space : scan w L .gap p (' ' :: cs) = scan w L .gap (p + 1) cs :=
  scan_gap_blank (leadOf_space w _)

theorem scan_gap_newline : scan w L .gap p ('\n' :: cs) = scan w L .gap (p + 1) cs :=
  scan_gap_blank (leadOf_newline w _)

theorem scan_digits (rest : List Char) {ds : List Char} (digits : ∀ d ∈ ds, d.isDigit = true)
    (s : Nat) (t : String) (q : Bool) :
    ∃ p', scan w L (.bare s t q) p (ds ++ rest) =
      scan w L (.bare s (t ++ String.ofList ds) q) p' rest := by
  induction ds generalizing t p with
  | nil => exact ⟨p, by simp⟩
  | cons d ds ih =>
    obtain ⟨p', rest_eq⟩ := ih (fun e mem => digits e (List.mem_cons_of_mem d mem)) (t.push d)
      (p := p + d.utf8Size)
    refine ⟨p', ?_⟩
    rw [List.cons_append,
      scan_plain (Mode.unquoted_bare s t q) (leadOf_digit (digits d List.mem_cons_self) _)]
    simp only [Mode.word]
    rw [rest_eq, push_append_ofList]

theorem scan_gap_digits (rest : List Char) {d : Char} {ds : List Char}
    (digits : ∀ e ∈ d :: ds, e.isDigit = true) :
    ∃ p', scan w L .gap p (d :: ds ++ rest) =
      scan w L (.bare p (String.ofList (d :: ds)) false) p' rest := by
  obtain ⟨p', rest_eq⟩ := scan_digits (w := w) (L := L) (p := p + d.utf8Size) rest
    (fun e mem => digits e (List.mem_cons_of_mem d mem)) p ("".push d) false
  refine ⟨p', ?_⟩
  rw [List.cons_append, scan_plain Mode.unquoted_gap (leadOf_digit (digits d List.mem_cons_self) _)]
  simp only [Mode.word]
  rw [rest_eq, push_append_ofList, String.empty_append]

end Gap

/-! ### Pieces of a line -/

/-- `ReadsAs follows cs ks`: between words, the characters `cs` are read as tokens of the kinds
`ks` whenever the text after them satisfies `follows`, which then is read on its own. -/
def ReadsAs (follows : List Char → Prop) (cs : List Char) (ks : List TokenKind) : Prop :=
  ∀ w L p rest, follows rest → ∃ toks p', toks.map Token.kind = ks ∧
    scan w L .gap p (cs ++ rest) = (toks ++ ·) <$> scan w L .gap p' rest

/-- Two pieces read one after the other when what follows the second is what the first needs
after it. -/
theorem ReadsAs.append {F G : List Char → Prop} {a b : List Char} {ka kb : List TokenKind}
    (first : ReadsAs F a ka) (second : ReadsAs G b kb) (feeds : ∀ rest, G rest → F (b ++ rest)) :
    ReadsAs G (a ++ b) (ka ++ kb) := by
  intro w L p rest follows
  obtain ⟨ta, pa, kindsA, scanA⟩ := first w L p (b ++ rest) (feeds rest follows)
  obtain ⟨tb, pb, kindsB, scanB⟩ := second w L pa rest follows
  refine ⟨ta ++ tb, pb, by simp [kindsA, kindsB], ?_⟩
  rw [List.append_assoc, scanA, scanB]
  simp

/-- A piece that is read whatever follows it. -/
def Leading (cs : List Char) (ks : List TokenKind) : Prop :=
  ReadsAs (fun _ => True) cs ks

/-- A piece that is read when the end of the line, a blank or a pipe follows it: a word. -/
def Lexes (cs : List Char) (ks : List TokenKind) : Prop :=
  ReadsAs Separates cs ks

theorem Leading.append {F : List Char → Prop} {j b : List Char} {kj kb : List TokenKind}
    (head : Leading j kj) (tail : ReadsAs F b kb) : ReadsAs F (j ++ b) (kj ++ kb) :=
  ReadsAs.append head tail (fun _ _ => trivial)

/-- The text that joins two pieces of a line: it ends the piece before it and is read as tokens
of the kinds `ks` whatever follows. -/
structure Joint (j : List Char) (ks : List TokenKind) : Prop where
  separates : ∀ more, Separates (j ++ more)
  leading : Leading j ks

theorem Lexes.join {a j b : List Char} {ka kj kb : List TokenKind} (first : Lexes a ka)
    (joint : Joint j kj) (second : Lexes b kb) : Lexes (a ++ j ++ b) (ka ++ kj ++ kb) := by
  rw [List.append_assoc, List.append_assoc]
  have separated : ∀ rest, Separates rest → Separates ((j ++ b) ++ rest) := by
    intro rest _
    simpa using joint.separates (b ++ rest)
  exact ReadsAs.append first (joint.leading.append second) separated

theorem Lexes.intercalate {j : List Char} {kj : List TokenKind} (joint : Joint j kj)
    {css : List (List Char)} {kss : List (List TokenKind)} (pieces : List.Forall₂ Lexes css kss)
    (nonempty : css ≠ []) : Lexes (j.intercalate css) (kj.intercalate kss) := by
  induction pieces with
  | nil => exact absurd rfl nonempty
  | cons first rest ih =>
    cases rest with
    | nil => simpa using first
    | cons second more =>
      rw [List.intercalate_cons_cons, List.intercalate_cons_cons]
      exact first.join joint (ih (List.cons_ne_nil _ _))

theorem Lexes.lex {line : String} {ks : List TokenKind} (lexes : Lexes line.toList ks) (w : Bool) :
    ∃ ts, lex line w = .ok ts ∧ ts.map Token.kind = ks := by
  obtain ⟨toks, p', kinds, scanned⟩ := lexes w line.utf8ByteSize 0 [] (.inl rfl)
  refine ⟨toks, ?_, kinds⟩
  rw [Shell.lex, ← List.append_nil line.toList, scanned, scan.eq_1]
  simp

/-! ### Joints and marks -/

/-- The token a sequence operator is written as. -/
def SeqOp.token : SeqOp → TokenKind
  | .semi => .semi
  | .and => .and
  | .or => .or
  | .background => .ampersand

theorem SeqOp.seqOp?_token (op : SeqOp) : op.token.seqOp? = some op := by
  cases op <;> rfl

theorem Joint.blank : Joint [' '] [] where
  separates more := .inr (.inl ⟨more, rfl⟩)
  leading w L p rest _ := ⟨[], p + 1, rfl, by simp [scan_gap_space]⟩

theorem Joint.pipe : Joint ['|', '\n', ' ', ' '] [.pipe] where
  separates more := .inr (.inr ⟨_, rfl⟩)
  leading w L p rest _ := ⟨[⟨.pipe, ⟨p, p + 1⟩⟩], p + 1 + 1 + 1 + 1, rfl, by
    simp only [List.cons_append, List.nil_append]
    rw [scan_gap_operator (leadOf_pipe w), Nat.sub_self, List.drop_zero, scan_gap_newline,
      scan_gap_space, scan_gap_space]⟩

theorem Joint.sequence (op : SeqOp) : Joint (' ' :: op.symbol.toList ++ ['\n']) [op.token] where
  separates more := .inr (.inl ⟨_, rfl⟩)
  leading w L p rest _ := by
    cases op with
    | semi =>
      have lead : leadOf w ';' (some '\n') = .operator .semi 1 := by simp [leadOf]
      refine ⟨[⟨.semi, ⟨p + 1, p + 1 + 1⟩⟩], p + 1 + 1 + 1, rfl, ?_⟩
      show scan w L .gap p (' ' :: ';' :: '\n' :: rest) = _
      rw [scan_gap_space, scan_gap_operator lead, Nat.sub_self, List.drop_zero, scan_gap_newline]
      rfl
    | and =>
      have lead : leadOf w '&' (some '&') = .operator .and 2 := by simp [leadOf]
      refine ⟨[⟨.and, ⟨p + 1, p + 1 + 2⟩⟩], p + 1 + 2 + 1, rfl, ?_⟩
      show scan w L .gap p (' ' :: '&' :: '&' :: '\n' :: rest) = _
      rw [scan_gap_space, scan_gap_operator lead, List.drop_one, List.tail_cons, scan_gap_newline]
      rfl
    | or =>
      have lead : leadOf w '|' (some '|') = .operator .or 2 := by simp [leadOf]
      refine ⟨[⟨.or, ⟨p + 1, p + 1 + 2⟩⟩], p + 1 + 2 + 1, rfl, ?_⟩
      show scan w L .gap p (' ' :: '|' :: '|' :: '\n' :: rest) = _
      rw [scan_gap_space, scan_gap_operator lead, List.drop_one, List.tail_cons, scan_gap_newline]
      rfl
    | background =>
      have lead : leadOf w '&' (some '\n') = .operator .ampersand 1 := by simp [leadOf]
      refine ⟨[⟨.ampersand, ⟨p + 1, p + 1 + 1⟩⟩], p + 1 + 1 + 1, rfl, ?_⟩
      show scan w L .gap p (' ' :: '&' :: '\n' :: rest) = _
      rw [scan_gap_space, scan_gap_operator lead, Nat.sub_self, List.drop_zero, scan_gap_newline]
      rfl

theorem Leading.bang : Leading ['!', ' '] [.bang] := by
  intro w L p rest _
  refine ⟨[⟨.bang, ⟨p, p + 1⟩⟩], p + 1 + 1, rfl, ?_⟩
  simp only [List.cons_append, List.nil_append]
  rw [scan_plain Mode.unquoted_gap (leadOf_bang w _)]
  simp only [Mode.word]
  rw [scan_blank (Mode.unquoted_bare _ _ _) (leadOf_space w _)]
  simp [Mode.finish]
  rfl

/-! ### Redirections -/

/-- What follows a redirection operator and cannot lengthen it. -/
def OperatorEnds (rest : List Char) : Prop :=
  ∀ c, rest.head? = some c → c ≠ '>' ∧ c ≠ '&'

theorem operatorEnds_cons {c : Char} (apart : c ≠ '>' ∧ c ≠ '&') (rest : List Char) :
    OperatorEnds (c :: rest) := by
  intro d head
  cases head
  exact apart

/-- Outside quotes a redirection operator other than `&>` is read as itself when what follows
cannot lengthen it. -/
theorem scan_symbol {w : Bool} {L p : Nat} {m : Mode} (unquoted : m.Unquoted) {op : RedirectOp}
    (notBoth : op ≠ .both) {rest : List Char} (ends : OperatorEnds rest) :
    ∃ width, scan w L m p (op.symbol.toList ++ rest) =
      m.withRedirect p width op (scan w L .gap (p + width) rest) := by
  have notGreater : rest.head? ≠ some '>' := fun head => (ends '>' head).1 rfl
  have notAmpersand : rest.head? ≠ some '&' := fun head => (ends '&' head).2 rfl
  cases op with
  | input =>
    have lead : leadOf w '<' rest.head? = .redirect .input 1 := by simp [leadOf, notAmpersand]
    refine ⟨1, ?_⟩
    show scan w L m p ('<' :: rest) = _
    rw [scan_redirect unquoted lead, Nat.sub_self, List.drop_zero]
  | output =>
    have lead : leadOf w '>' rest.head? = .redirect .output 1 := by
      simp [leadOf, notGreater, notAmpersand]
    refine ⟨1, ?_⟩
    show scan w L m p ('>' :: rest) = _
    rw [scan_redirect unquoted lead, Nat.sub_self, List.drop_zero]
  | append =>
    have lead : leadOf w '>' (some '>') = .redirect .append 2 := by simp [leadOf]
    refine ⟨2, ?_⟩
    show scan w L m p ('>' :: '>' :: rest) = _
    rw [scan_redirect unquoted lead, List.drop_one, List.tail_cons]
  | dupOutput =>
    have lead : leadOf w '>' (some '&') = .redirect .dupOutput 2 := by simp [leadOf]
    refine ⟨2, ?_⟩
    show scan w L m p ('>' :: '&' :: rest) = _
    rw [scan_redirect unquoted lead, List.drop_one, List.tail_cons]
  | dupInput =>
    have lead : leadOf w '<' (some '&') = .redirect .dupInput 2 := by simp [leadOf]
    refine ⟨2, ?_⟩
    show scan w L m p ('<' :: '&' :: rest) = _
    rw [scan_redirect unquoted lead, List.drop_one, List.tail_cons]
  | both => exact absurd rfl notBoth

theorem readsAs_redirect_none (op : RedirectOp) :
    ReadsAs OperatorEnds op.symbol.toList [.redirect op none] := by
  intro w L p rest ends
  by_cases both : op = .both
  · -- `&>` is an operator of its own, read before any redirection
    subst both
    have lead : leadOf w '&' (some '>') = .operator (.redirect .both none) 2 := by simp [leadOf]
    refine ⟨[⟨.redirect .both none, ⟨p, p + 2⟩⟩], p + 2, rfl, ?_⟩
    show scan w L .gap p ('&' :: '>' :: rest) = _
    rw [scan_gap_operator lead, List.drop_one, List.tail_cons]
    rfl
  · obtain ⟨width, scanned⟩ := scan_symbol (w := w) (L := L) (p := p) Mode.unquoted_gap both ends
    refine ⟨[⟨.redirect op none, ⟨p, p + width⟩⟩], p + width, rfl, ?_⟩
    rw [scanned]
    rfl

theorem digitsValue_toString (n : Nat) : digitsValue (toString n) = n := by
  induction n using Nat.strongRecOn with
  | ind n ih =>
    have digit : ∀ k < 10, (Nat.digitChar k).toNat = 48 + k := by decide
    have zero : '0'.toNat = 48 := rfl
    rw [digitsValue, Nat.toString_eq_repr, Nat.toList_repr, Nat.toDigits_eq_if (by decide)]
    split
    · next small =>
      rw [List.foldl_cons, List.foldl_nil, digit n small, zero]
      omega
    · next large =>
      -- the last digit is read after the number the others stand for
      have upper := ih (n / 10) (by omega)
      rw [digitsValue, Nat.toString_eq_repr, Nat.toList_repr] at upper
      rw [List.foldl_append, upper, List.foldl_cons, List.foldl_nil, digit (n % 10) (by omega),
        zero]
      omega

theorem isDigit_of_mem_toString {n : Nat} {c : Char} (mem : c ∈ (toString n).toList) :
    c.isDigit = true := by
  rw [Nat.toString_eq_repr, Nat.toList_repr] at mem
  exact Nat.isDigit_of_mem_toDigits (by decide) (by decide) mem

/-- A redirection with a descriptor that fits is read as one token, its descriptor written
right before its operator. -/
theorem readsAs_redirect_some {op : RedirectOp} (notBoth : op ≠ .both) {n : Nat}
    (fits : n ≤ maxDescriptor) :
    ReadsAs OperatorEnds ((toString n).toList ++ op.symbol.toList) [.redirect op (some n)] := by
  intro w L p rest ends
  obtain ⟨d, ds, spelled⟩ : ∃ d ds, (toString n).toList = d :: ds := by
    rw [Nat.toString_eq_repr, Nat.toList_repr]
    exact List.exists_cons_of_ne_nil Nat.toDigits_ne_nil
  have digits : ∀ e ∈ d :: ds, e.isDigit = true := fun e mem =>
    isDigit_of_mem_toString (spelled ▸ mem)
  have text : String.ofList (d :: ds) = toString n := by
    rw [← spelled, String.ofList_toList]
  obtain ⟨p₁, toWord⟩ := scan_gap_digits (w := w) (L := L) (p := p) (op.symbol.toList ++ rest)
    digits
  obtain ⟨width, scanned⟩ := scan_symbol (w := w) (L := L) (p := p₁)
    (Mode.unquoted_bare p (String.ofList (d :: ds)) false) notBoth ends
  have descriptor : (Mode.bare p (toString n) false).descriptor? = some (p, toString n, n) := by
    have nonempty : (toString n).isEmpty = false := by simp
    have allDigits : (toString n).all Char.isDigit = true := by
      simpa [String.all_bool_eq] using fun c mem => isDigit_of_mem_toString mem
    rw [Mode.descriptor?, if_pos (by rw [nonempty, allDigits]; rfl), digitsValue_toString]
  refine ⟨[⟨.redirect op (some n), ⟨p, p₁ + width⟩⟩], p₁ + width, rfl, ?_⟩
  rw [spelled, List.append_assoc, toWord, scanned, text, Mode.withRedirect, descriptor]
  simp [Nat.not_lt.2 fits]
  rfl

/-! ### Quoted words -/

theorem lexes_single_quoted {body : List Char} (absent : '\'' ∉ body) :
    Lexes ('\'' :: body ++ ['\'']) [.word (String.ofList body)] := by
  intro w L p rest separates
  have inside := scan_single_body w L p p rest body "" (p + 1) absent
  refine ⟨[⟨.word (String.ofList body), ⟨p, p + 1 + byteSize body + 1⟩⟩], p + 1 + byteSize body + 1,
    rfl, ?_⟩
  have lead : leadOf w '\'' (body ++ '\'' :: rest).head? = .single := by simp [leadOf]
  simp only [List.cons_append, List.append_assoc, List.nil_append]
  rw [scan_opening_single Mode.unquoted_gap lead]
  simp only [Mode.word]
  rw [inside, scan_bare_separates separates, String.empty_append]
  rfl

/-- A double-quoted body with no double quote of its own, which the lexer reads as one word when
it stands alone, closes its quotes at the end of the line, and the word is what it stands
for. -/
theorem DoubleQuoted.of_lex {line : String} {body : List Char} (absent : '"' ∉ body)
    (spelled : line.toList = '"' :: body ++ ['"']) {word : String} {span : Span}
    (alone : lex line = .ok [⟨.word word, span⟩]) :
    ∃ content, DoubleQuoted (body ++ ['"']) content [] ∧ word = String.ofList content := by
  have lead : leadOf false '"' (body ++ ['"']).head? = .double := by simp [leadOf]
  have read : Shell.scan false line.utf8ByteSize (.double 0 "" 0) 1 (body ++ ['"']) =
      .ok [⟨.word word, span⟩] := by
    rw [Shell.lex, spelled, List.cons_append, scan_opening_double Mode.unquoted_gap lead] at alone
    exact alone
  obtain ⟨content, rest, quoted⟩ := DoubleQuoted.of_scan read
  obtain rfl := quoted.rest_eq_nil absent
  obtain ⟨p', closed, -⟩ := quoted.scan false line.utf8ByteSize 0 0 "" 1
  refine ⟨content, quoted, ?_⟩
  rw [closed, scan.eq_2, String.empty_append] at read
  simp only [wordToken, Bool.not_true, Bool.false_and, Bool.false_eq_true, if_false,
    Except.ok.injEq, List.cons.injEq, Token.mk.injEq, TokenKind.word.injEq] at read
  exact read.1.1.symm

/-- A double-quoted body with no double quote of its own, which the lexer reads as one word when
it stands alone, is that word wherever it stands. -/
theorem lexes_double_quoted {line : String} {body : List Char} (absent : '"' ∉ body)
    (spelled : line.toList = '"' :: body ++ ['"']) {word : String} {span : Span}
    (alone : lex line = .ok [⟨.word word, span⟩]) :
    Lexes ('"' :: body ++ ['"']) [.word word] := by
  obtain ⟨content, quoted, same⟩ := DoubleQuoted.of_lex absent spelled alone
  intro w L p after separates
  obtain ⟨p'', inside, -⟩ := (quoted.append after).scan w L p p "" (p + 1)
  refine ⟨[⟨.word word, ⟨p, p''⟩⟩], p'', rfl, ?_⟩
  have lead : leadOf w '"' (body ++ '"' :: after).head? = .double := by simp [leadOf]
  simp only [List.cons_append, List.append_assoc, List.nil_append] at inside ⊢
  rw [scan_opening_double Mode.unquoted_gap lead]
  simp only [Mode.word]
  rw [inside, scan_bare_separates separates, String.empty_append, same]
  rfl

theorem lexes_digit_run {d : Char} {ds : List Char} (digits : ∀ e ∈ d :: ds, e.isDigit = true) :
    Lexes (d :: ds) [.word (String.ofList (d :: ds))] := by
  intro w L p rest separates
  obtain ⟨p', toWord⟩ := scan_gap_digits (w := w) (L := L) (p := p) rest digits
  refine ⟨[⟨.word (String.ofList (d :: ds)), ⟨p, p'⟩⟩], p', rfl, ?_⟩
  -- a digit run is not the negation mark
  have notBang : (String.ofList (d :: ds) == "!") = false := by
    rw [beq_eq_false_iff_ne]
    intro same
    have spelled := congrArg String.toList same
    simp only [String.toList_ofList] at spelled
    have digit := digits d List.mem_cons_self
    rw [(List.cons.inj spelled).1] at digit
    exact absurd digit (by decide)
  rw [toWord, scan_bare_separates separates]
  simp only [wordToken, Bool.not_false, Bool.true_and, notBang, Bool.false_eq_true, if_false]
  rfl

/-! ### Descriptors of lexed tokens -/

/-- Every token of a lexer result carries a descriptor that fits. -/
def Fitting (r : Except LexError (List Token)) : Prop :=
  ∀ ts, r = .ok ts → ∀ t ∈ ts, t.kind.Fits

theorem Fitting.error (e : LexError) : Fitting (.error e) := by
  intro ts failed
  cases failed

theorem wordToken_fits (text : String) (quoted : Bool) (span : Span) :
    (wordToken text quoted span).kind.Fits := by
  unfold wordToken
  split <;> trivial

theorem Mode.finish_fits (m : Mode) (p : Nat) : ∀ t ∈ m.finish p, t.kind.Fits := by
  cases m <;> simp [Mode.finish, wordToken_fits]

theorem Fitting.prepend {r : Except LexError (List Token)} (rest : Fitting r) {front : List Token}
    (fits : ∀ t ∈ front, t.kind.Fits) : Fitting ((front ++ ·) <$> r) := by
  intro ts produced t mem
  cases r with
  | error e => cases produced
  | ok us =>
    cases produced
    rcases List.mem_append.1 mem with inFront | inRest
    · exact fits t inFront
    · exact rest us rfl t inRest

theorem Fitting.withOperator {r : Except LexError (List Token)} (rest : Fitting r) {m : Mode}
    {p : Nat} {t : Token} (fits : t.kind.Fits) : Fitting (m.withOperator p t r) := by
  have spelled : m.withOperator p t r = ((m.finish p ++ [t]) ++ ·) <$> r := by
    show (fun ts => m.finish p ++ t :: ts) <$> r = _
    simp
  rw [spelled]
  refine rest.prepend fun u mem => ?_
  rcases List.mem_append.1 mem with finished | operator
  · exact m.finish_fits p u finished
  · rw [List.mem_singleton.1 operator]
    exact fits

/-- A redirection token fits unless it is `&>`: its descriptor, if any, was checked against the
largest one. -/
theorem Fitting.withRedirect {r : Except LexError (List Token)} (rest : Fitting r) {m : Mode}
    {p width : Nat} {op : RedirectOp} (notBoth : op ≠ .both) :
    Fitting (m.withRedirect p width op r) := by
  have fitsAny : ∀ fd, (∀ n, fd = some n → n ≤ maxDescriptor) → (TokenKind.redirect op fd).Fits :=
    fun fd bounded => ⟨fun both => absurd both notBoth, bounded⟩
  unfold Mode.withRedirect
  split
  · next start text value _ =>
    split
    · exact Fitting.error _
    · next small =>
      have spelled : (r.map fun ts => ⟨.redirect op (some value), ⟨start, p + width⟩⟩ :: ts) =
          ([⟨.redirect op (some value), ⟨start, p + width⟩⟩] ++ ·) <$> r :=
        rfl
      rw [spelled]
      refine rest.prepend fun u mem => ?_
      rw [List.mem_singleton.1 mem]
      exact fitsAny _ fun n same => Option.some.inj same ▸ Nat.le_of_not_lt small
  · have spelled : (r.map fun ts => m.finish p ++ ⟨.redirect op none, ⟨p, p + width⟩⟩ :: ts) =
        ((m.finish p ++ [⟨.redirect op none, ⟨p, p + width⟩⟩]) ++ ·) <$> r := by
      show (fun ts => m.finish p ++ ⟨.redirect op none, ⟨p, p + width⟩⟩ :: ts) <$> r = _
      simp
    rw [spelled]
    refine rest.prepend fun u mem => ?_
    rcases List.mem_append.1 mem with finished | redirect
    · exact m.finish_fits p u finished
    · rw [List.mem_singleton.1 redirect]
      exact fitsAny none fun n none_eq => by cases none_eq

theorem leadOf_operator_fits {w : Bool} {c : Char} {next : Option Char} {kind : TokenKind}
    {width : Nat} (lead : leadOf w c next = .operator kind width) : kind.Fits := by
  unfold leadOf at lead
  split_ifs at lead <;> cases lead <;> trivial

theorem leadOf_redirect_ne_both {w : Bool} {c : Char} {next : Option Char} {op : RedirectOp}
    {width : Nat} (lead : leadOf w c next = .redirect op width) : op ≠ .both := by
  unfold leadOf at lead
  split_ifs at lead <;> cases lead <;> decide

/-- Every token the lexer reads carries a descriptor that fits: `&>` never has one, and a
descriptor past the largest is refused. -/
theorem scan_fitting (w : Bool) (L : Nat) (m : Mode) (p : Nat) (cs : List Char) :
    Fitting (scan w L m p cs) := by
  fun_induction scan w L m p cs
  case case1 => exact fun ts read => by cases read; simp
  case case2 => exact fun ts read => by cases read; simp [wordToken_fits]
  -- unterminated quotes and trailing backslashes
  case case3 | case4 | case7 | case16 => exact Fitting.error _
  case case11 lead rest => exact rest.withOperator (leadOf_operator_fits lead)
  case case12 lead rest => exact rest.withRedirect (leadOf_redirect_ne_both lead)
  case case15 rest => exact rest.prepend (Mode.finish_fits _ _)
  -- the other steps read on and add no token
  case case5 | case6 | case8 | case9 | case10 | case13 | case14 | case17 | case18 => assumption

theorem lex_fits {line : String} {w : Bool} {ts : List Token} (lexed : lex line w = .ok ts) :
    ∀ t ∈ ts, t.kind.Fits :=
  scan_fitting w _ .gap 0 line.toList ts lexed

end Pipework.Shell
