import Pipework.Proofs.Shell.TokenText

/-! Between blanks, each token of a line spans the bytes of its own text, which lexes alone to
that token, and an error points between character boundaries of the line. -/

namespace Pipework.Shell

open Pipework.Text

/-! ### Segments of a line -/

theorem byteSize_pos {cs : List Char} (nonempty : cs ≠ []) : 0 < byteSize cs := by
  cases cs with
  | nil => exact absurd rfl nonempty
  | cons c cs => simp [Char.utf8Size_pos]

/-- How the characters `cs` that follow `pre` on a line split into blanks and the texts of
tokens: each token spans the bytes of its text, and that text lexes alone to the token. -/
inductive Segments (w : Bool) : List Char → List Char → List Token → Prop
  /-- Only blanks are left. -/
  | blanks {pre cs : List Char} (blank : ∀ c ∈ cs, isBlank c = true) : Segments w pre cs []
  /-- Blanks `b`, then the text `a` of a token, then the rest `r`. -/
  | token {pre b a r : List Char} {k : TokenKind} {ts : List Token}
      (blank : ∀ c ∈ b, isBlank c = true) (nonempty : a ≠ [])
      (alone : lex (String.ofList a) w = .ok [⟨k, ⟨0, byteSize a⟩⟩])
      (rest : Segments w (pre ++ b ++ a) r ts) :
      Segments w pre (b ++ a ++ r) (⟨k, ⟨byteSize (pre ++ b), byteSize (pre ++ b ++ a)⟩⟩ :: ts)

namespace Segments

variable {w : Bool}

theorem cons_blank {pre cs : List Char} {ts : List Token} {c : Char} (blank : isBlank c = true)
    (segs : Segments w (pre ++ [c]) cs ts) : Segments w pre (c :: cs) ts := by
  cases segs with
  | blanks blanks => exact .blanks (List.forall_mem_cons.mpr ⟨blank, blanks⟩)
  | @token _ b _ _ _ _ blanks nonempty alone rest =>
    have moved := Segments.token (b := c :: b) (List.forall_mem_cons.mpr ⟨blank, blanks⟩)
      nonempty alone (by simpa using rest)
    simpa using moved

end Segments

theorem scan_segments (w : Bool) (L : Nat) (cs pre : List Char) (ts : List Token)
    (scanned : scan w L .gap (byteSize pre) cs = .ok ts) : Segments w pre cs ts := by
  -- on the length of what is left: a blank or a token takes at least one character
  induction hn : cs.length using Nat.strong_induction_on generalizing cs pre ts with
  | _ n ih =>
  subst hn
  cases cs with
  | nil =>
    rw [scan.eq_1] at scanned
    cases scanned
    exact .blanks (by simp)
  | cons c cs =>
    by_cases blank : leadOf w c cs.head? = .blank
    · rw [scan_gap_blank blank] at scanned
      exact (ih cs.length (by simp) cs (pre ++ [c]) ts (by simpa using scanned) rfl).cons_blank
        (isBlank_of_leadOf blank)
    · obtain ⟨a, r, ⟨k, span⟩, rest, split, rfl, spans, cont, alone⟩ := scan_gap_token blank scanned
      subst spans
      have nonempty : a ≠ [] := by
        rintro rfl
        have empty := alone 0
        rw [scan.eq_1] at empty
        cases empty
      have shorter : r.length < (c :: cs).length := by
        rw [split, List.length_append]
        have := List.length_pos_iff.mpr nonempty
        omega
      have later := ih r.length shorter r (pre ++ a) rest (by simpa using cont) rfl
      have first := Segments.token (b := []) (by simp) nonempty (lex_alone alone) (by simpa using later)
      rw [split]
      simpa using first

namespace Segments

variable {w : Bool}

/-- Each token is the text of some characters of the line: they are not empty, the token spans
their bytes, and they lex alone to the token. -/
theorem texts {pre cs : List Char} {ts : List Token} (segs : Segments w pre cs ts) :
    ∀ t ∈ ts, ∃ x mid post, pre ++ cs = x ++ mid ++ post ∧ mid ≠ [] ∧
      t.span = ⟨byteSize x, byteSize x + byteSize mid⟩ ∧
      lex (String.ofList mid) w = .ok [⟨t.kind, ⟨0, byteSize mid⟩⟩] := by
  induction segs with
  | blanks => simp
  | @token pre b a r k ts blank nonempty alone rest ih =>
    intro t mem
    rcases List.mem_cons.mp mem with rfl | later
    · exact ⟨pre ++ b, a, r, by simp, nonempty, by simp [Nat.add_assoc], alone⟩
    · obtain ⟨x, mid, post, line, nonempty', span, alone'⟩ := ih t later
      exact ⟨x, mid, post, by simpa using line, nonempty', span, alone'⟩

/-- Tokens start after the characters before the segments, and each ends before the next
starts. -/
theorem ordered {pre cs : List Char} {ts : List Token} (segs : Segments w pre cs ts) :
    (∀ t ∈ ts, byteSize pre ≤ t.span.start) ∧
      ts.IsChain (fun t u => t.span.stop ≤ u.span.start) := by
  induction segs with
  | blanks => simp
  | @token pre b a r k ts blank nonempty alone rest ih =>
    obtain ⟨starts, chain⟩ := ih
    refine ⟨fun t mem => ?_, chain.cons fun u head => starts u (List.mem_of_mem_head? head)⟩
    rcases List.mem_cons.mp mem with rfl | later
    · simp
    · have := starts t later
      simp only [byteSize_append] at this ⊢
      omega

theorem stops {pre cs : List Char} {ts : List Token} (segs : Segments w pre cs ts) :
    ∀ t ∈ ts, t.span.stop ≤ byteSize (pre ++ cs) := by
  induction segs with
  | blanks => simp
  | @token pre b a r k ts blank nonempty alone rest ih =>
    intro t mem
    rcases List.mem_cons.mp mem with rfl | later
    · simp only [byteSize_append]
      omega
    · simpa using ih t later

theorem blank_outside {pre cs : List Char} {ts : List Token} (segs : Segments w pre cs ts) :
    ∀ x c post, cs = x ++ c :: post →
      (∀ t ∈ ts, ¬ (t.span.start ≤ byteSize (pre ++ x) ∧ byteSize (pre ++ x) < t.span.stop)) →
      isBlank c = true := by
  induction segs with
  | blanks blank =>
    intro x c post split _
    exact blank c (by simp [split])
  | @token pre b a r k ts blank nonempty alone rest ih =>
    intro x c post split outside
    have notFirst := outside _ List.mem_cons_self
    have later : ∀ y, x = b ++ a ++ y →
        ∀ t ∈ ts, ¬ (t.span.start ≤ byteSize (pre ++ b ++ a ++ y) ∧
          byteSize (pre ++ b ++ a ++ y) < t.span.stop) := by
      rintro y rfl t mem
      simpa using outside t (List.mem_cons_of_mem _ mem)
    have text := byteSize_pos nonempty
    simp only [byteSize_append] at notFirst
    rw [List.append_assoc] at split
    rcases List.append_eq_append_iff.mp split with ⟨x', rfl, inWord⟩ | ⟨b', rfl, inBlanks⟩
    · rcases List.append_eq_append_iff.mp inWord with ⟨y, rfl, after⟩ | ⟨a', rfl, inText⟩
      · -- after the token's text
        exact ih y c post after (later y (by simp))
      · cases a' with
        | nil =>
          -- right after the token's text
          exact ih [] c post (by simpa using inText.symm) (later [] (by simp))
        | cons d a' =>
          -- inside the token's text
          have := Char.utf8Size_pos d
          simp only [byteSize_append, byteSize_cons] at notFirst
          omega
    · cases b' with
      | nil =>
        -- at the start of the token's text
        simp only [List.append_nil] at notFirst
        omega
      | cons d b' =>
        -- among the blanks before the token
        simp only [List.cons_append, List.cons.injEq] at inBlanks
        obtain ⟨rfl, -⟩ := inBlanks
        exact blank c (by simp)

end Segments

/-! ### Where errors point -/

/-- The span runs between two character boundaries of the line. -/
def Span.OnLine (line : List Char) (span : Span) : Prop :=
  ∃ pre mid post, line = pre ++ mid ++ post ∧ span = ⟨byteSize pre, byteSize pre + byteSize mid⟩

/-- The offset `n` is the byte offset of a character boundary of `done`. -/
def Boundary (done : List Char) (n : Nat) : Prop :=
  ∃ x y, done = x ++ y ∧ byteSize x = n

theorem Boundary.append {done : List Char} {n : Nat} (boundary : Boundary done n)
    (more : List Char) : Boundary (done ++ more) n := by
  obtain ⟨x, y, rfl, rfl⟩ := boundary
  exact ⟨x, y ++ more, by simp, rfl⟩

theorem Boundary.whole (done : List Char) : Boundary done (byteSize done) :=
  ⟨done, [], by simp, rfl⟩

theorem Boundary.onLine {done : List Char} {n : Nat} (boundary : Boundary done n)
    (rest : List Char) : Span.OnLine (done ++ rest) ⟨n, byteSize done⟩ := by
  obtain ⟨x, y, rfl, rfl⟩ := boundary
  exact ⟨x, y, rest, rfl, by simp⟩

/-- The offsets a mode remembers are character boundaries of what was read. -/
def Mode.Marks (done : List Char) : Mode → Prop
  | .gap => True
  | .bare s _ _ => Boundary done s
  | .single s _ o | .double s _ o => Boundary done s ∧ Boundary done o

theorem Mode.Marks.append {m : Mode} {done : List Char} (marks : m.Marks done)
    (more : List Char) : m.Marks (done ++ more) := by
  cases m with
  | gap => trivial
  | bare s t q => exact Boundary.append marks more
  | single s t o | double s t o => exact ⟨marks.1.append more, marks.2.append more⟩

theorem Mode.Marks.word {m : Mode} {done : List Char} (marks : m.Marks done)
    (unquoted : m.Unquoted) {p start : Nat} {text : String} {quoted : Bool}
    (offset : p = byteSize done) (word : m.word p = (start, text, quoted)) :
    Boundary done start := by
  subst offset
  cases m <;> simp only [Mode.word, Prod.mk.injEq] at word <;> obtain ⟨rfl, -, -⟩ := word
  case gap => exact Boundary.whole done
  case bare => exact marks
  case single s t o => exact absurd rfl (unquoted.not_single s t o)
  case double s t o => exact absurd rfl (unquoted.not_double s t o)

theorem withOperator_eq_error {m : Mode} {p : Nat} {t : Token} {r : Except LexError (List Token)}
    {e : LexError} : m.withOperator p t r = .error e ↔ r = .error e := by
  cases r <;> simp [Mode.withOperator, Except.map]

theorem map_append_eq_error {front : List Token} {r : Except LexError (List Token)}
    {e : LexError} : (front ++ ·) <$> r = .error e ↔ r = .error e := by
  cases r <;> simp [Functor.map, Except.map]

theorem withRedirect_eq_error {m : Mode} {p width : Nat} {op : RedirectOp}
    {r : Except LexError (List Token)} {e : LexError}
    (failed : m.withRedirect p width op r = .error e) :
    r = .error e ∨ ∃ s text v, m.descriptor? = some (s, text, v) ∧ maxDescriptor < v ∧
      e = .invalidDescriptor text ⟨s, p⟩ := by
  unfold Mode.withRedirect at failed
  split at failed
  · rename_i s text v desc
    by_cases large : maxDescriptor < v
    · simp only [large, if_true, Except.error.injEq] at failed
      exact .inr ⟨s, text, v, desc, large, failed.symm⟩
    · simp only [large, if_false] at failed
      cases r <;> simp_all [Except.map]
  · cases r <;> simp_all [Except.map]

theorem scan_error_onLine (w : Bool) (L : Nat) (m : Mode) (p : Nat) (cs : List Char) :
    ∀ (done : List Char) {e : LexError}, L = byteSize (done ++ cs) → p = byteSize done →
      m.Marks done → scan w L m p cs = .error e → e.span.OnLine (done ++ cs) := by
  fun_induction scan w L m p cs
  case case1 | case2 => intro done e _ _ _ scanned; cases scanned
  -- an unterminated quote points from where it opened to the end of the line
  case case3 | case4 =>
    intro done e ends _ marks scanned
    cases scanned
    simpa [ends, LexError.span] using marks.2.onLine []
  -- the other steps read some characters and go on: the invariant moves along with them
  case case5 pos c cs closing ih =>
    intro done e ends offset marks scanned
    have one : c.utf8Size = 1 := utf8Size_of_beq closing rfl
    simpa using ih (done ++ [c]) (by simp [ends]) (by simp [offset, one]) (marks.1.append [c]) scanned
  case case6 pos c cs inside ih =>
    intro done e ends offset marks scanned
    simpa using ih (done ++ [c]) (by simp [ends]) (by simp [offset]) (marks.append [c]) scanned
  case case7 pos c backslash =>
    intro done e ends offset marks scanned
    cases scanned
    have one : c.utf8Size = 1 := utf8Size_of_beq backslash rfl
    exact ⟨done, [c], [], by simp, by simp [LexError.span, offset, one]⟩
  case case8 pos c backslash d ds kept ih =>
    intro done e ends offset marks scanned
    have one : c.utf8Size = 1 := utf8Size_of_beq backslash rfl
    simpa using ih (done ++ [c, d]) (by simp [ends]) (by simp [offset, one, Nat.add_assoc])
      (marks.append [c, d]) scanned
  case case9 pos c cs plain closing ih =>
    intro done e ends offset marks scanned
    have one : c.utf8Size = 1 := utf8Size_of_beq closing rfl
    simpa using ih (done ++ [c]) (by simp [ends]) (by simp [offset, one]) (marks.1.append [c]) scanned
  case case10 pos c cs plain inside ih =>
    intro done e ends offset marks scanned
    simpa using ih (done ++ [c]) (by simp [ends]) (by simp [offset]) (marks.append [c]) scanned
  case case11 pos c cs notSingle notDouble kind width lead ih =>
    intro done e ends offset marks scanned
    obtain ⟨-, bytes⟩ := leadOf_operator_take lead
    have line := ih (done ++ c :: cs.take (width - 1)) (by simp [ends]) (by rw [byteSize_append, bytes, offset])
      trivial (withOperator_eq_error.mp scanned)
    simpa using line
  case case12 pos c cs notSingle notDouble op width lead ih =>
    intro done e ends offset marks scanned
    rcases withRedirect_eq_error scanned with failed | ⟨s, text, v, desc, -, rfl⟩
    · obtain ⟨-, bytes, -⟩ := leadOf_redirect_take lead
      have line := ih (done ++ c :: cs.take (width - 1)) (by simp [ends]) (by rw [byteSize_append, bytes, offset])
        trivial failed
      simpa using line
    · -- a descriptor too large: its span runs from the start of its word to the operator
      obtain ⟨t, q, rfl⟩ := Mode.eq_bare_of_descriptor desc
      simpa [LexError.span, offset] using Boundary.onLine marks (c :: cs)
  case case13 pos c cs notSingle notDouble lead start text _ word ih =>
    intro done e ends offset marks scanned
    have started := marks.word (Mode.Unquoted.intro notSingle notDouble) offset word
    have one : c.utf8Size = 1 := by rw [eq_of_leadOf_single lead]; rfl
    simpa using ih (done ++ [c]) (by simp [ends]) (by simp [offset, one])
      ⟨started.append [c], (offset ▸ Boundary.whole done).append [c]⟩ scanned
  case case14 pos c cs notSingle notDouble lead start text _ word ih =>
    intro done e ends offset marks scanned
    have started := marks.word (Mode.Unquoted.intro notSingle notDouble) offset word
    have one : c.utf8Size = 1 := by rw [eq_of_leadOf_double lead]; rfl
    simpa using ih (done ++ [c]) (by simp [ends]) (by simp [offset, one])
      ⟨started.append [c], (offset ▸ Boundary.whole done).append [c]⟩ scanned
  case case15 pos c cs notSingle notDouble lead ih =>
    intro done e ends offset marks scanned
    simpa using ih (done ++ [c]) (by simp [ends]) (by simp [offset]) trivial
      (map_append_eq_error.mp scanned)
  case case16 pos c notSingle notDouble _ _ _ _ lead =>
    intro done e ends offset marks scanned
    cases scanned
    have one : c.utf8Size = 1 := by rw [(eq_of_leadOf_escape lead).1]; rfl
    exact ⟨done, [c], [], by simp, by simp [LexError.span, offset, one]⟩
  case case17 pos c notSingle notDouble start text _ word d ds lead ih =>
    intro done e ends offset marks scanned
    have started := marks.word (Mode.Unquoted.intro notSingle notDouble) offset word
    have one : c.utf8Size = 1 := by rw [(eq_of_leadOf_escape lead).1]; rfl
    simpa using ih (done ++ [c, d]) (by simp [ends]) (by simp [offset, one, Nat.add_assoc])
      (started.append [c, d]) scanned
  case case18 pos c cs notSingle notDouble lead start text _ word ih =>
    intro done e ends offset marks scanned
    have started := marks.word (Mode.Unquoted.intro notSingle notDouble) offset word
    simpa using ih (done ++ [c]) (by simp [ends]) (by simp [offset]) (started.append [c]) scanned

/-- The tokens of a line segment it. Each token spans the bytes of a non-empty run of the line's
characters, which lexed alone gives the token back from offset zero; the tokens come in order
and end within the line; a character that no token covers is a blank. An error points at a span
between character boundaries of the line. -/
theorem lex_tokens_segment_line (line : String) (w : Bool) :
    (∀ ts, lex line w = .ok ts →
      (∀ t ∈ ts, ∃ pre mid post, line.toList = pre ++ mid ++ post ∧ mid ≠ [] ∧
        t.span = ⟨byteSize pre, byteSize pre + byteSize mid⟩ ∧
        lex (String.ofList mid) w = .ok [⟨t.kind, ⟨0, byteSize mid⟩⟩]) ∧
      (∀ t ∈ ts, t.span.start < t.span.stop ∧ t.span.stop ≤ line.utf8ByteSize) ∧
      ts.IsChain (fun t u => t.span.stop ≤ u.span.start) ∧
      (∀ pre c post, line.toList = pre ++ c :: post →
        (∀ t ∈ ts, ¬ (t.span.start ≤ byteSize pre ∧ byteSize pre < t.span.stop)) →
        isBlank c = true)) ∧
    (∀ e, lex line w = .error e → ∃ pre mid post, line.toList = pre ++ mid ++ post ∧
      e.span = ⟨byteSize pre, byteSize pre + byteSize mid⟩) := by
  refine ⟨fun ts lexed => ?_, fun e failed => ?_⟩
  · have segs := scan_segments w _ line.toList [] ts lexed
    have texts := segs.texts
    simp only [List.nil_append] at texts
    refine ⟨texts, fun t mem => ⟨?_, ?_⟩, segs.ordered.2, fun pre c post split outside =>
      segs.blank_outside pre c post split (by simpa using outside)⟩
    · obtain ⟨x, mid, post, -, nonempty, span, -⟩ := texts t mem
      have := byteSize_pos nonempty
      simp only [span]
      omega
    · simpa [utf8ByteSize_eq_byteSize] using segs.stops t mem
  · exact scan_error_onLine w _ .gap 0 line.toList [] (by simp [utf8ByteSize_eq_byteSize]) rfl
      trivial failed

end Pipework.Shell
