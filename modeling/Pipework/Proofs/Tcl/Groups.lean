import Pipework.Proofs.Shell.Lexing
import Pipework.Tcl.Words

/-! Groups of an `exec` line. -/

namespace Pipework.Tcl

open Pipework.Text Pipework.Shell

/-! ### Balanced braces -/

/-- Braces are balanced: as many `}` as `{`, and no prefix has more `}` than `{`. -/
def Balanced (w : List Char) : Prop :=
  w.count '}' = w.count '{' ∧ ∀ k ≤ w.length, (w.take k).count '}' ≤ (w.take k).count '{'

instance : DecidablePred Balanced := fun _ => inferInstanceAs (Decidable (_ ∧ _))

/-- Inside a brace group at depth `d`, the characters `b` never close it: no prefix of `b` has
`d` more `}` than `{`. -/
def Nested (d : Nat) (b : List Char) : Prop :=
  ∀ k ≤ b.length, (b.take k).count '}' < d + (b.take k).count '{'

theorem nested_cons {d : Nat} {c : Char} {b : List Char} :
    Nested d (c :: b) ↔
      0 < d ∧ ∀ k ≤ b.length, (c :: b.take k).count '}' < d + (c :: b.take k).count '{' := by
  constructor
  · intro nested
    refine ⟨by simpa using nested 0 (Nat.zero_le _), fun k le => ?_⟩
    simpa using nested (k + 1) (by simpa using le)
  · rintro ⟨inside, rest⟩ k le
    cases k with
    | zero => simpa using inside
    | succ k => simpa using rest k (by simpa using le)

theorem Nested.cons_open {d : Nat} {b : List Char} (inside : 0 < d) :
    Nested d ('{' :: b) ↔ Nested (d + 1) b := by
  rw [nested_cons, Nested]
  simp only [List.count_cons, inside, true_and]
  exact forall₂_congr fun _ _ => by simp; omega

theorem Nested.cons_close {d : Nat} {b : List Char} :
    Nested d ('}' :: b) ↔ 1 < d ∧ Nested (d - 1) b := by
  rw [nested_cons, Nested]
  simp only [List.count_cons]
  constructor
  · rintro ⟨-, rest⟩
    have deep : 1 < d := by simpa using rest 0 (Nat.zero_le _)
    exact ⟨deep, fun k le => by have := rest k le; simp at this; omega⟩
  · rintro ⟨deep, rest⟩
    exact ⟨by omega, fun k le => by have := rest k le; simp; omega⟩

theorem Nested.cons_other {d : Nat} {c : Char} {b : List Char} (inside : 0 < d)
    (notOpen : c ≠ '{') (notClose : c ≠ '}') : Nested d (c :: b) ↔ Nested d b := by
  rw [nested_cons, Nested]
  simp only [List.count_cons, inside, true_and, beq_iff_eq, notOpen, notClose, if_false]
  rfl

theorem balanced_iff {w : List Char} :
    Balanced w ↔ Nested 1 w ∧ 1 + w.count '{' = 1 + w.count '}' := by
  rw [Balanced, Nested, and_comm]
  exact and_congr (forall₂_congr fun _ _ => by omega) (by omega)

/-! ### The splitter inside a piece -/

/-- Inside a brace group, characters that do not close it are taken as they are, the depth
following the braces among them. -/
theorem splitFrom_brace_body (opened : Nat) (rest : List Char) :
    ∀ (body : List Char) (d d' : Nat) (text : String) (pos : Nat), Nested d body →
      d + body.count '{' = d' + body.count '}' →
      splitFrom (.brace opened d text) pos (body ++ rest) =
        splitFrom (.brace opened d' (text ++ String.ofList body)) (pos + byteSize body) rest
  | [], d, d', text, pos, _, depth => by simp_all
  | c :: body, d, d', text, pos, nested, depth => by
    have inside : 0 < d := (nested_cons.1 nested).1
    by_cases isOpen : c = '{'
    · subst isOpen
      have inner := splitFrom_brace_body opened rest body (d + 1) d' (text.push '{') (pos + 1)
        ((Nested.cons_open inside).1 nested) (by simp at depth; omega)
      rw [List.cons_append, splitFrom.eq_5, inner, push_append_ofList, byteSize_cons,
        ← Nat.add_assoc]
      rfl
    by_cases isClose : c = '}'
    · subst isClose
      obtain ⟨deep, nested⟩ := Nested.cons_close.1 nested
      have inner := splitFrom_brace_body opened rest body (d - 1) d' (text.push '}') (pos + 1)
        nested (by simp at depth; omega)
      rw [List.cons_append, splitFrom.eq_6, if_neg (by omega), inner, push_append_ofList,
        byteSize_cons, ← Nat.add_assoc]
      rfl
    · have inner := splitFrom_brace_body opened rest body d d' (text.push c) (pos + c.utf8Size)
        ((Nested.cons_other inside isOpen isClose).1 nested)
        (by simp [isOpen, isClose] at depth; omega)
      rw [List.cons_append, splitFrom.eq_7 _ _ _ _ _ _ isOpen isClose, inner, push_append_ofList,
        byteSize_cons, Nat.add_assoc]

theorem splitFrom_brace_close {opened d : Nat} {text : String} {pos : Nat} {rest : List Char}
    (last : d ≤ 1) :
    splitFrom (.brace opened d text) pos ('}' :: rest) =
      (.word text :: ·) <$> splitFrom .gap (pos + 1) rest := by
  rw [splitFrom.eq_6, if_pos last]

theorem splitFrom_quote_body (opened : Nat) (rest : List Char) :
    ∀ (body : List Char) (text : String) (pos : Nat), '"' ∉ body →
      splitFrom (.quote opened text) pos (body ++ '"' :: rest) =
        (.word (text ++ String.ofList body) :: ·) <$> splitFrom .gap (pos + byteSize body + 1) rest
  | [], text, pos, _ => by simp [splitFrom.eq_8]
  | c :: body, text, pos, absent => by
    have notQuote : c ≠ '"' := fun same => absent (same ▸ List.mem_cons_self)
    rw [List.cons_append, splitFrom.eq_9 _ _ _ _ _ notQuote,
      splitFrom_quote_body opened rest body _ _ (fun h => absent (List.mem_cons_of_mem c h)),
      push_append_ofList, byteSize_cons, Nat.add_assoc pos]

/-- A character that may stand inside a bare word: neither blank nor control. -/
def Plain (c : Char) : Prop := isBlank c = false ∧ isControl c = false

theorem splitFrom_bare_body (rest : List Char) :
    ∀ (word : List Char) (text : String) (pos : Nat), (∀ x ∈ word, Plain x) →
      splitFrom (.bare text) pos (word ++ rest) =
        splitFrom (.bare (text ++ String.ofList word)) (pos + byteSize word) rest
  | [], text, pos, _ => by simp
  | c :: word, text, pos, plain => by
    have ⟨notBlank, notControl⟩ := plain c List.mem_cons_self
    rw [List.cons_append, splitFrom.eq_10, if_neg (by simp [notBlank]),
      if_neg (by simp [notControl]),
      splitFrom_bare_body rest word _ _ (fun x mem => plain x (List.mem_cons_of_mem c mem)),
      push_append_ofList, byteSize_cons, Nat.add_assoc pos]

theorem isControl_iff {c : Char} :
    isControl c = true ↔ c = '[' ∨ c = ']' ∨ c = '$' ∨ c = ';' := by
  simp [isControl, or_assoc]

theorem isBlank_of_isControl {c : Char} (control : isControl c = true) : isBlank c = false := by
  rcases isControl_iff.1 control with rfl | rfl | rfl | rfl <;> rfl

theorem map_eq_ok {ε α β : Type} {f : α → β} {x : Except ε α} {b : β} :
    f <$> x = .ok b ↔ ∃ a, x = .ok a ∧ f a = b := by
  cases x <;> simp [Functor.map, Except.map]

/-! ### The grammar -/

/-- A piece of an `exec` line: a brace group or a double-quoted group with the characters between
its delimiters, a control character, or a bare word. -/
inductive Piece where
  | brace (body : List Char)
  | quote (body : List Char)
  | control (c : Char)
  | bare (text : List Char)
  deriving Repr, DecidableEq

/-- The token a piece is read as. -/
def Piece.token : Piece → WordToken
  | .brace body | .quote body | .bare body => .word (String.ofList body)
  | .control c => .control c

/-- A bare word: a plain character that opens no group, then plain characters. -/
def BareWord : List Char → Prop
  | [] => False
  | c :: cs => Plain c ∧ c ≠ '{' ∧ c ≠ '"' ∧ ∀ x ∈ cs, Plain x

/-- What may follow a bare word: nothing, a blank or a control character. -/
def EndsWord : List Char → Prop
  | [] => True
  | c :: _ => isBlank c = true ∨ isControl c = true

/-- `Spelled line pieces`: the line is the pieces in order, with blanks around them. A brace
group holds balanced braces, a double-quoted group no double quote, and a bare word ends the line
or stands before a blank or a control character. -/
inductive Spelled : List Char → List Piece → Prop where
  | nil : Spelled [] []
  | blank {c cs ps} : isBlank c = true → Spelled cs ps → Spelled (c :: cs) ps
  | brace {body rest ps} : Balanced body → Spelled rest ps →
      Spelled ('{' :: body ++ '}' :: rest) (.brace body :: ps)
  | quote {body rest ps} : '"' ∉ body → Spelled rest ps →
      Spelled ('"' :: body ++ '"' :: rest) (.quote body :: ps)
  | control {c cs ps} : isControl c = true → Spelled cs ps → Spelled (c :: cs) (.control c :: ps)
  | bare {text rest ps} : BareWord text → EndsWord rest → Spelled rest ps →
      Spelled (text ++ rest) (.bare text :: ps)

/-! ### Spelled lines are split into their pieces' tokens -/

theorem splitFrom_gap_blank {c : Char} (blank : isBlank c = true) (pos : Nat) (cs : List Char) :
    splitFrom .gap pos (c :: cs) = splitFrom .gap (pos + c.utf8Size) cs := by
  rw [splitFrom.eq_11, if_pos blank]

theorem splitFrom_gap_control {c : Char} (control : isControl c = true) (pos : Nat)
    (cs : List Char) :
    splitFrom .gap pos (c :: cs) = (.control c :: ·) <$> splitFrom .gap (pos + 1) cs := by
  rcases isControl_iff.1 control with rfl | rfl | rfl | rfl <;>
    simp [splitFrom.eq_11, isBlank, isControl]

theorem splitFrom_gap_bare {c : Char} {word : List Char} (bare : BareWord (c :: word)) (pos : Nat)
    (rest : List Char) :
    splitFrom .gap pos (c :: word ++ rest) =
      splitFrom (.bare (String.ofList (c :: word))) (pos + byteSize (c :: word)) rest := by
  obtain ⟨⟨notBlank, notControl⟩, notBrace, notQuote, plain⟩ := bare
  rw [List.cons_append, splitFrom.eq_11, if_neg (by simp [notBlank]),
    if_neg (by simpa using notBrace), if_neg (by simpa using notQuote),
    if_neg (by simp [notControl]), splitFrom_bare_body rest word _ _ plain, byteSize_cons,
    ← Nat.add_assoc]
  congr 2
  exact String.ext (by simp)

/-- A brace group with a balanced body is one word, and the splitter goes on right after its
closing brace. -/
theorem splitFrom_brace_group {body : List Char} (balanced : Balanced body) (pos : Nat)
    (rest : List Char) :
    splitFrom .gap pos ('{' :: body ++ '}' :: rest) =
      (.word (String.ofList body) :: ·) <$> splitFrom .gap (pos + 1 + byteSize body + 1) rest := by
  obtain ⟨nested, depth⟩ := balanced_iff.1 balanced
  rw [List.cons_append, splitFrom.eq_11, if_neg (by decide), if_pos (by decide),
    splitFrom_brace_body pos _ body 1 1 "" (pos + 1) nested depth, String.empty_append,
    splitFrom_brace_close le_rfl]

theorem splitFrom_quote_group {body : List Char} (absent : '"' ∉ body) (pos : Nat)
    (rest : List Char) :
    splitFrom .gap pos ('"' :: body ++ '"' :: rest) =
      (.word (String.ofList body) :: ·) <$> splitFrom .gap (pos + 1 + byteSize body + 1) rest := by
  rw [List.cons_append, splitFrom.eq_11, if_neg (by decide), if_neg (by decide),
    if_pos (by decide), splitFrom_quote_body pos _ body "" (pos + 1) absent, String.empty_append]

/-- A bare word ends where the grammar ends it: at the end of the line, at a blank, or at a
control character, which is a token of its own. -/
theorem splitFrom_bare_end {text : String} {pos : Nat} {rest : List Char} {ps : List Piece}
    (ends : EndsWord rest) (read : ∀ pos, splitFrom .gap pos rest = .ok (ps.map Piece.token)) :
    splitFrom (.bare text) pos rest = .ok (.word text :: ps.map Piece.token) := by
  match rest, ends with
  | [], _ =>
    have empty := read 0
    rw [splitFrom.eq_1] at empty
    rw [splitFrom.eq_2, ← Except.ok.inj empty]
  | c :: cs, ends =>
    by_cases blank : isBlank c = true
    · have next := read pos
      rw [splitFrom_gap_blank blank] at next
      rw [splitFrom.eq_10, if_pos blank, next]
      rfl
    · have control : isControl c = true := ends.resolve_left blank
      have next := read pos
      rw [splitFrom_gap_control control, map_eq_ok] at next
      obtain ⟨ts, after, tokens⟩ := next
      rw [splitFrom.eq_10, if_neg blank, if_pos control, after, ← tokens]
      rfl

theorem Spelled.splitFrom {cs : List Char} {ps : List Piece} (spelled : Spelled cs ps) :
    ∀ pos, splitFrom .gap pos cs = .ok (ps.map Piece.token) := by
  induction spelled with
  | nil => intro pos; rfl
  | blank blank _ ih => intro pos; rw [splitFrom_gap_blank blank, ih]
  | brace balanced _ ih => intro pos; rw [splitFrom_brace_group balanced, ih]; rfl
  | quote absent _ ih => intro pos; rw [splitFrom_quote_group absent, ih]; rfl
  | control control _ ih => intro pos; rw [splitFrom_gap_control control, ih]; rfl
  | @bare text rest ps bare ends _ ih =>
    intro pos
    match text, bare with
    | c :: word, bare => rw [splitFrom_gap_bare bare, splitFrom_bare_end ends ih]; rfl

/-! ### What the splitter gives is spelled

`Reads g cs ts` says what the splitter in state `g` needs of the rest `cs` of the line to give
`ts`: in a gap, a spelled line; in a group or a bare word, the rest of that piece and then a
spelled line. -/

/-- What the splitter, in a state, reads from the rest of a line to give its tokens. A brace
group at depth `d` runs to the first `}` that brings the depth to zero. -/
def Reads : Group → List Char → List WordToken → Prop
  | .gap, cs, ts => ∃ ps, Spelled cs ps ∧ ts = ps.map Piece.token
  | .brace _ d text, cs, ts => 0 < d →
    ∃ body rest ps, cs = body ++ '}' :: rest ∧ Nested d body ∧
      d + body.count '{' = 1 + body.count '}' ∧ Spelled rest ps ∧
      ts = .word (text ++ String.ofList body) :: ps.map Piece.token
  | .quote _ text, cs, ts =>
    ∃ body rest ps, cs = body ++ '"' :: rest ∧ '"' ∉ body ∧ Spelled rest ps ∧
      ts = .word (text ++ String.ofList body) :: ps.map Piece.token
  | .bare text, cs, ts =>
    ∃ word rest ps, cs = word ++ rest ∧ (∀ x ∈ word, Plain x) ∧ EndsWord rest ∧ Spelled rest ps ∧
      ts = .word (text ++ String.ofList word) :: ps.map Piece.token

theorem spelled_of_map {f : List WordToken → List WordToken}
    {r : Except DialectError (List WordToken)} {cs : List Char} {ts : List WordToken}
    (ih : ∀ ts, r = .ok ts → Reads .gap cs ts) (read : f <$> r = .ok ts) :
    ∃ ps, Spelled cs ps ∧ ts = f (ps.map Piece.token) := by
  obtain ⟨ts', after, rfl⟩ := map_eq_ok.1 read
  obtain ⟨ps, spelled, rfl⟩ := ih ts' after
  exact ⟨ps, spelled, rfl⟩

theorem splitFrom_reads (g : Group) (pos : Nat) (cs : List Char) :
    ∀ ts, splitFrom g pos cs = .ok ts → Reads g cs ts := by
  fun_induction splitFrom g pos cs with
  | case1 => rintro ts ⟨⟩; exact ⟨[], .nil, rfl⟩
  | case2 text => rintro ts ⟨⟩; exact ⟨[], [], [], rfl, by simp, trivial, .nil, by simp⟩
  | case3 | case4 => intro ts failed; cases failed
  | case5 opened d text pos cs ih =>
    -- a nested `{`: the group closes one level further on
    intro ts read inside
    obtain ⟨body, rest, ps, rfl, nested, depth, spelled, rfl⟩ := ih ts read (by omega)
    refine ⟨'{' :: body, rest, ps, rfl, (Nested.cons_open inside).2 nested, by simp; omega,
      spelled, ?_⟩
    rw [push_append_ofList]
  | case6 opened d text pos cs last ih =>
    intro ts read inside
    obtain ⟨ps, spelled, rfl⟩ := spelled_of_map ih read
    exact ⟨[], cs, ps, rfl, fun k _ => by simpa using inside, by simp; omega, spelled, by simp⟩
  | case7 opened d text pos cs deep ih =>
    intro ts read _
    obtain ⟨body, rest, ps, rfl, nested, depth, spelled, rfl⟩ := ih ts read (by omega)
    refine ⟨'}' :: body, rest, ps, rfl, Nested.cons_close.2 ⟨by omega, nested⟩, by simp; omega,
      spelled, ?_⟩
    rw [push_append_ofList]
  | case8 opened d text pos c cs notOpen notClose ih =>
    intro ts read inside
    obtain ⟨body, rest, ps, rfl, nested, depth, spelled, rfl⟩ := ih ts read inside
    refine ⟨c :: body, rest, ps, rfl, (Nested.cons_other inside notOpen notClose).2 nested,
      by simpa [List.count_cons, if_neg notOpen, if_neg notClose] using depth, spelled, ?_⟩
    rw [push_append_ofList]
  | case9 opened text pos cs ih =>
    intro ts read
    obtain ⟨ps, spelled, rfl⟩ := spelled_of_map ih read
    exact ⟨[], cs, ps, rfl, by simp, spelled, by simp⟩
  | case10 opened text pos c cs notQuote ih =>
    intro ts read
    obtain ⟨body, rest, ps, rfl, absent, spelled, rfl⟩ := ih ts read
    refine ⟨c :: body, rest, ps, rfl, ?_, spelled, ?_⟩
    · simpa [absent] using Ne.symm notQuote
    · rw [push_append_ofList]
  | case11 text pos c cs blank ih =>
    intro ts read
    obtain ⟨ps, spelled, rfl⟩ := spelled_of_map ih read
    exact ⟨[], c :: cs, ps, rfl, by simp, .inl blank, .blank blank spelled, by simp⟩
  | case12 text pos c cs _ control ih =>
    intro ts read
    obtain ⟨ps, spelled, rfl⟩ := spelled_of_map ih read
    exact ⟨[], c :: cs, .control c :: ps, rfl, by simp, .inr control, .control control spelled,
      by simp [Piece.token]⟩
  | case13 text pos c cs notBlank notControl ih =>
    intro ts read
    obtain ⟨word, rest, ps, rfl, plain, ends, spelled, rfl⟩ := ih ts read
    refine ⟨c :: word, rest, ps, rfl, ?_, ends, spelled, ?_⟩
    · simpa [Plain, notBlank, notControl] using plain
    · rw [push_append_ofList]
  | case14 pos c cs blank ih =>
    intro ts read
    obtain ⟨ps, spelled, rfl⟩ := ih ts read
    exact ⟨ps, .blank blank spelled, rfl⟩
  | case15 pos c cs _ isOpen ih =>
    intro ts read
    obtain ⟨body, rest, ps, rfl, nested, depth, spelled, rfl⟩ := ih ts read Nat.one_pos
    obtain rfl : c = '{' := by simpa using isOpen
    exact ⟨.brace body :: ps, .brace (balanced_iff.2 ⟨nested, depth⟩) spelled,
      by simp [Piece.token]⟩
  | case16 pos c cs _ _ isQuote ih =>
    intro ts read
    obtain ⟨body, rest, ps, rfl, absent, spelled, rfl⟩ := ih ts read
    obtain rfl : c = '"' := by simpa using isQuote
    exact ⟨.quote body :: ps, .quote absent spelled, by simp [Piece.token]⟩
  | case17 pos c cs _ _ _ control ih =>
    intro ts read
    obtain ⟨ps, spelled, rfl⟩ := spelled_of_map ih read
    exact ⟨.control c :: ps, .control control spelled, rfl⟩
  | case18 pos c cs notBlank notOpen notQuote notControl ih =>
    intro ts read
    obtain ⟨word, rest, ps, rfl, plain, ends, spelled, rfl⟩ := ih ts read
    have bare : BareWord (c :: word) :=
      ⟨⟨by simpa using notBlank, by simpa using notControl⟩, by simpa using notOpen,
        by simpa using notQuote, plain⟩
    refine ⟨.bare (c :: word) :: ps, .bare bare ends spelled, ?_⟩
    simp [Piece.token]

/-- The splitter gives the tokens of a line exactly when the line is spelled by pieces with those
tokens. -/
theorem tokenize_eq_ok_iff {line : String} {ts : List WordToken} :
    tokenize line = .ok ts ↔ ∃ ps, Spelled line.toList ps ∧ ts = ps.map Piece.token := by
  constructor
  · exact splitFrom_reads .gap 0 line.toList ts
  · rintro ⟨ps, spelled, rfl⟩
    exact spelled.splitFrom 0

/-! ### One reading only -/

theorem append_cons_cases {x : Char} {b b' r r' : List Char} (same : b ++ x :: r = b' ++ x :: r') :
    (b = b' ∧ r = r') ∨ (∃ m, b' = b ++ x :: m) ∨ ∃ m, b = b' ++ x :: m := by
  rcases List.append_eq_append_iff.1 same with ⟨a, rfl, rest⟩ | ⟨a, rfl, rest⟩
  · cases a with
    | nil => simp_all
    | cons y a =>
      obtain ⟨rfl, rfl⟩ := List.cons.inj rest
      exact .inr (.inl ⟨a, rfl⟩)
  · cases a with
    | nil => simp_all
    | cons y a =>
      obtain ⟨rfl, rfl⟩ := List.cons.inj rest
      exact .inr (.inr ⟨a, rfl⟩)

theorem not_balanced_append_close {b : List Char} (balanced : Balanced b) (m : List Char) :
    ¬Balanced (b ++ '}' :: m) := by
  intro longer
  have prefixed := longer.2 (b.length + 1) (by simp)
  rw [List.take_append, List.take_of_length_le (by omega), Nat.add_sub_cancel_left] at prefixed
  simp [List.count_append] at prefixed
  have even := balanced.1
  omega

theorem balanced_split {b b' r r' : List Char} (balanced : Balanced b) (balanced' : Balanced b')
    (same : b ++ '}' :: r = b' ++ '}' :: r') : b = b' ∧ r = r' := by
  rcases append_cons_cases same with split | ⟨m, rfl⟩ | ⟨m, rfl⟩
  · exact split
  · exact absurd balanced' (not_balanced_append_close balanced m)
  · exact absurd balanced (not_balanced_append_close balanced' m)

theorem quoted_split {b b' r r' : List Char} (absent : '"' ∉ b) (absent' : '"' ∉ b')
    (same : b ++ '"' :: r = b' ++ '"' :: r') : b = b' ∧ r = r' := by
  rcases append_cons_cases same with split | ⟨m, rfl⟩ | ⟨m, rfl⟩
  · exact split
  · simp at absent'
  · simp at absent

theorem bare_split {w w' r r' : List Char} (plain : ∀ x ∈ w, Plain x) (plain' : ∀ x ∈ w', Plain x)
    (ends : EndsWord r) (ends' : EndsWord r') (same : w ++ r = w' ++ r') : w = w' := by
  induction w generalizing w' with
  | nil =>
    cases w' with
    | nil => rfl
    | cons y w' =>
      subst same
      have ⟨notBlank, notControl⟩ := plain' y List.mem_cons_self
      simp [EndsWord, notBlank, notControl] at ends
  | cons x w ih =>
    cases w' with
    | nil =>
      subst same
      have ⟨notBlank, notControl⟩ := plain x List.mem_cons_self
      simp [EndsWord, notBlank, notControl] at ends'
    | cons y w' =>
      obtain ⟨rfl, rest⟩ := List.cons.inj same
      rw [ih (fun z mem => plain z (List.mem_cons_of_mem x mem))
        (fun z mem => plain' z (List.mem_cons_of_mem x mem)) rest]

theorem Spelled.nil_inv {ps : List Piece} (spelled : Spelled [] ps) : ps = [] := by
  generalize empty : ([] : List Char) = line at spelled
  cases spelled with
  | nil => rfl
  | blank | brace | quote | control => cases empty
  | @bare text rest _ bare _ _ =>
    cases text with
    | nil => exact bare.elim
    | cons _ _ => cases empty

theorem Spelled.cons_cases {c : Char} {cs : List Char} {ps : List Piece}
    (spelled : Spelled (c :: cs) ps) :
    (isBlank c = true ∧ Spelled cs ps) ∨
    (c = '{' ∧ ∃ body rest qs, cs = body ++ '}' :: rest ∧ Balanced body ∧ Spelled rest qs ∧
      ps = .brace body :: qs) ∨
    (c = '"' ∧ ∃ body rest qs, cs = body ++ '"' :: rest ∧ '"' ∉ body ∧ Spelled rest qs ∧
      ps = .quote body :: qs) ∨
    (isControl c = true ∧ ∃ qs, Spelled cs qs ∧ ps = .control c :: qs) ∨
    (∃ word rest qs, cs = word ++ rest ∧ BareWord (c :: word) ∧ EndsWord rest ∧ Spelled rest qs ∧
      ps = .bare (c :: word) :: qs) := by
  generalize line : c :: cs = l at spelled
  cases spelled with
  | nil => cases line
  | blank blank spelled =>
    obtain ⟨rfl, rfl⟩ := List.cons.inj line
    exact .inl ⟨blank, spelled⟩
  | brace balanced spelled =>
    obtain ⟨rfl, rfl⟩ := List.cons.inj line
    exact .inr (.inl ⟨rfl, _, _, _, rfl, balanced, spelled, rfl⟩)
  | quote absent spelled =>
    obtain ⟨rfl, rfl⟩ := List.cons.inj line
    exact .inr (.inr (.inl ⟨rfl, _, _, _, rfl, absent, spelled, rfl⟩))
  | control control spelled =>
    obtain ⟨rfl, rfl⟩ := List.cons.inj line
    exact .inr (.inr (.inr (.inl ⟨control, _, spelled, rfl⟩)))
  | @bare text rest _ bare ends spelled =>
    cases text with
    | nil => exact bare.elim
    | cons d word =>
      obtain ⟨rfl, rfl⟩ := List.cons.inj line
      exact .inr (.inr (.inr (.inr ⟨word, rest, _, rfl, bare, ends, spelled, rfl⟩)))

theorem Spelled.unique {cs : List Char} {ps qs : List Piece} (spelled : Spelled cs ps)
    (other : Spelled cs qs) : ps = qs := by
  -- the first character decides the piece; the other alternatives contradict its class
  induction spelled generalizing qs with
  | nil => exact other.nil_inv.symm
  | blank blank _ ih =>
    rcases other.cons_cases with ⟨-, tail⟩ | ⟨rfl, -⟩ | ⟨rfl, -⟩ | ⟨control, -⟩ |
      ⟨_, _, _, -, bare, -⟩
    · exact ih tail
    · exact absurd blank (by decide)
    · exact absurd blank (by decide)
    · simp [isBlank_of_isControl control] at blank
    · simp [bare.1.1] at blank
  | brace balanced _ ih =>
    rw [List.cons_append] at other
    rcases other.cons_cases with ⟨blank, -⟩ | ⟨-, body, rest, qs, same, balanced', tail, rfl⟩ |
      ⟨quote, -⟩ | ⟨control, -⟩ | ⟨_, _, _, -, bare, -⟩
    · exact absurd blank (by decide)
    · obtain ⟨rfl, rfl⟩ := balanced_split balanced balanced' same
      rw [ih tail]
    · exact absurd quote (by decide)
    · exact absurd control (by decide)
    · exact absurd rfl bare.2.1
  | quote absent _ ih =>
    rw [List.cons_append] at other
    rcases other.cons_cases with ⟨blank, -⟩ | ⟨brace, -⟩ |
      ⟨-, body, rest, qs, same, absent', tail, rfl⟩ | ⟨control, -⟩ | ⟨_, _, _, -, bare, -⟩
    · exact absurd blank (by decide)
    · exact absurd brace (by decide)
    · obtain ⟨rfl, rfl⟩ := quoted_split absent absent' same
      rw [ih tail]
    · exact absurd control (by decide)
    · exact absurd rfl bare.2.2.1
  | control control _ ih =>
    rcases other.cons_cases with ⟨blank, -⟩ | ⟨rfl, -⟩ | ⟨rfl, -⟩ | ⟨-, qs, tail, rfl⟩ |
      ⟨_, _, _, -, bare, -⟩
    · simp [isBlank_of_isControl control] at blank
    · exact absurd control (by decide)
    · exact absurd control (by decide)
    · rw [ih tail]
    · simp [bare.1.2] at control
  | @bare text rest ps bare ends _ ih =>
    cases text with
    | nil => exact bare.elim
    | cons c word =>
      rw [List.cons_append] at other
      rcases other.cons_cases with ⟨blank, -⟩ | ⟨rfl, -⟩ | ⟨rfl, -⟩ | ⟨control, -⟩ |
        ⟨word', rest', qs, same, bare', ends', tail, rfl⟩
      · simp [bare.1.1] at blank
      · exact absurd rfl bare.2.1
      · exact absurd rfl bare.2.2.1
      · simp [bare.1.2] at control
      · obtain rfl := bare_split bare.2.2.2 bare'.2.2.2 ends ends' same
        obtain rfl := List.append_cancel_left same
        rw [ih tail]

/-! ### Groups are read verbatim -/

theorem Spelled.brace_balanced {cs : List Char} {ps : List Piece} (spelled : Spelled cs ps) :
    ∀ body, Piece.brace body ∈ ps → Balanced body := by
  induction spelled with
  | nil => simp
  | blank _ _ ih => exact ih
  | @brace body _ _ balanced _ ih =>
    intro inner mem
    rcases List.mem_cons.1 mem with same | later
    · cases same
      exact balanced
    · exact ih inner later
  | quote _ _ ih | control _ _ ih | bare _ _ _ ih =>
    intro inner mem
    exact ih inner (List.mem_of_ne_of_mem (by simp) mem)

/-- The words of brace groups have balanced braces; a balanced text in braces, and a text
without double quotes in double quotes, are read as that one word, blanks and control characters
included. -/
theorem groups_read_verbatim :
    (∀ (line : String) (ts : List WordToken), tokenize line = .ok ts →
      ∃ ps, Spelled line.toList ps ∧ ts = ps.map Piece.token ∧
        ∀ body, Piece.brace body ∈ ps → Balanced body) ∧
    (∀ w : String, Balanced w.toList → tokenize ("\x7b" ++ w ++ "\x7d") = .ok [.word w]) ∧
    (∀ w : String, '"' ∉ w.toList → tokenize ("\"" ++ w ++ "\"") = .ok [.word w]) := by
  refine ⟨fun line ts read => ?_, fun w balanced => ?_, fun w absent => ?_⟩
  · obtain ⟨ps, spelled, rfl⟩ := tokenize_eq_ok_iff.1 read
    exact ⟨ps, spelled, rfl, spelled.brace_balanced⟩
  · have spelled : Spelled ("\x7b" ++ w ++ "\x7d").toList [.brace w.toList] := by
      simpa using Spelled.brace balanced .nil
    simpa [Piece.token] using tokenize_eq_ok_iff.2 ⟨_, spelled, rfl⟩
  · have spelled : Spelled ("\"" ++ w ++ "\"").toList [.quote w.toList] := by
      simpa using Spelled.quote absent .nil
    simpa [Piece.token] using tokenize_eq_ok_iff.2 ⟨_, spelled, rfl⟩

/-- `grep {a {b} $c;} x`: the group keeps its nested braces and the control characters inside
it; `{a {b} $c;}` alone, and `"a b [c]"`, are one word each. -/
theorem groups_read_verbatim_nested :
    (tokenize "grep \x7ba \x7bb\x7d $c;\x7d x" = .ok [.word "grep", .word "a \x7bb\x7d $c;", .word "x"] ∧
      ∃ ps, Spelled "grep \x7ba \x7bb\x7d $c;\x7d x".toList ps ∧
        ([.word "grep", .word "a \x7bb\x7d $c;", .word "x"] : List WordToken) = ps.map Piece.token ∧
        ∀ body, Piece.brace body ∈ ps → Balanced body) ∧
    (Balanced "a \x7bb\x7d $c;".toList ∧
      tokenize ("\x7b" ++ "a \x7bb\x7d $c;" ++ "\x7d") = .ok [.word "a \x7bb\x7d $c;"]) ∧
    ('"' ∉ "a b [c]".toList ∧ tokenize ("\"" ++ "a b [c]" ++ "\"") = .ok [.word "a b [c]"]) :=
  have read : tokenize "grep \x7ba \x7bb\x7d $c;\x7d x" =
      .ok [.word "grep", .word "a \x7bb\x7d $c;", .word "x"] := by
    decide
  ⟨⟨read, groups_read_verbatim.1 _ _ read⟩, ⟨by decide, groups_read_verbatim.2.1 _ (by decide)⟩,
    ⟨by decide, groups_read_verbatim.2.2 _ (by decide)⟩⟩

end Pipework.Tcl
