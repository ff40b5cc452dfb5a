import Pipework.Proofs.Shell.RoundTrip

/-! Which words `quote` can write. -/

namespace Pipework.Shell

open Pipework.Text

theorem utf8ByteSize_ofList (cs : List Char) : (String.ofList cs).utf8ByteSize = byteSize cs := by
  induction cs with
  | nil => rfl
  | cons c cs ih =>
    rw [String.ofList_cons, String.utf8ByteSize_append, String.utf8ByteSize_singleton, ih,
      byteSize_cons]

theorem utf8ByteSize_eq_byteSize (s : String) : s.utf8ByteSize = byteSize s.toList := by
  conv => lhs; rw [← String.ofList_toList (s := s)]
  exact utf8ByteSize_ofList s.toList

/-! ### Bodies that read back as themselves -/

/-- A body whose backslashes each stand alone and before another character: no two stand
together and none ends the body. -/
structure LoneEscapes (body : List Char) : Prop where
  unpaired : ¬ ['\\', '\\'] <:+: body
  unfinished : body.getLast? ≠ some '\\'

namespace LoneEscapes

theorem nil : LoneEscapes [] :=
  ⟨fun pair => by simpa using pair.length_le, by simp⟩

theorem tail {c : Char} {cs : List Char} (lone : LoneEscapes (c :: cs)) : LoneEscapes cs where
  unpaired pair := lone.unpaired (pair.trans (List.suffix_cons c cs).isInfix)
  unfinished := by
    cases cs with
    | nil => simp
    | cons d ds => simpa [List.getLast?_cons_cons] using lone.unfinished

theorem cons {c : Char} {cs : List Char} (plain : c ≠ '\\') (lone : LoneEscapes cs) :
    LoneEscapes (c :: cs) where
  unpaired pair := by
    rcases List.infix_cons_iff.1 pair with front | later
    · exact plain (List.cons_prefix_cons.1 front).1.symm
    · exact lone.unpaired later
  unfinished := by
    cases cs with
    | nil => simpa using plain
    | cons d ds => simpa [List.getLast?_cons_cons] using lone.unfinished

theorem escaped_ne {d : Char} {ds : List Char} (lone : LoneEscapes ('\\' :: d :: ds)) :
    d ≠ '\\' := by
  rintro rfl
  exact lone.unpaired (List.prefix_append ['\\', '\\'] ds).isInfix

theorem escape {d : Char} {ds : List Char} (plain : d ≠ '\\') (lone : LoneEscapes (d :: ds)) :
    LoneEscapes ('\\' :: d :: ds) where
  unpaired pair := by
    rcases List.infix_cons_iff.1 pair with front | later
    · exact plain (List.cons_prefix_cons.1 (List.cons_prefix_cons.1 front).2).1.symm
    · exact lone.unpaired later
  unfinished := by simpa [List.getLast?_cons_cons] using lone.unfinished

end LoneEscapes

/-- The closing quote is read and stands for nothing, and a backslash never stands for more than
it is read from. -/
theorem DoubleQuoted.length_lt {cs content rest : List Char} (quoted : DoubleQuoted cs content rest) :
    content.length + rest.length < cs.length := by
  induction quoted with
  | close rest => simp
  | escape d _ ih =>
    split
    · simp only [List.singleton_append, List.length_cons]
      omega
    · simp only [List.cons_append, List.nil_append, List.length_cons]
      omega
  | char _ _ ih =>
    simp only [List.length_cons]
    omega

theorem DoubleQuoted.self (rest : List Char) :
    ∀ {body : List Char}, '"' ∉ body → LoneEscapes body → DoubleQuoted (body ++ '"' :: rest) body rest
  | [], _, _ => .close rest
  | c :: cs, absent, lone => by
    have notQuote : c ≠ '"' := fun same => absent (same ▸ List.mem_cons_self)
    have absentRest : '"' ∉ cs := fun mem => absent (List.mem_cons_of_mem c mem)
    by_cases backslash : c = '\\'
    · subst backslash
      cases cs with
      | nil => exact absurd rfl lone.unfinished
      | cons d ds =>
        -- the backslash escapes a character that it leaves in place
        have plain : d ≠ '\\' := lone.escaped_ne
        have unquoted : d ≠ '"' := fun same => absentRest (same ▸ List.mem_cons_self)
        have inner := DoubleQuoted.self rest
          (fun mem => absentRest (List.mem_cons_of_mem d mem)) lone.tail.tail
        simpa [plain, unquoted] using DoubleQuoted.escape d inner
    · exact .char ⟨backslash, notQuote⟩ (DoubleQuoted.self rest absentRest lone.tail)

/-- A body with no double quote that is read between double quotes as itself has lone
backslashes: a backslash before another is read as one, and one at the end escapes the
closing quote. -/
theorem DoubleQuoted.loneEscapes {cs content rest : List Char}
    (quoted : DoubleQuoted cs content rest) (spelled : cs = content ++ '"' :: rest)
    (absent : '"' ∉ content) : LoneEscapes content := by
  induction quoted with
  | close rest => exact LoneEscapes.nil
  | @escape d ds content rest inner ih =>
    by_cases kept : (d == '"' || d == '\\') = true
    · -- a collapsed pair would make the body longer than what reads it
      rw [if_pos kept] at spelled
      simp only [List.cons_append, List.nil_append, List.cons.injEq] at spelled
      obtain ⟨rfl, collapsed⟩ := spelled
      have shorter := inner.length_lt
      have lengths := congrArg List.length collapsed
      simp only [List.length_append, List.length_cons] at lengths
      omega
    · rw [if_neg kept] at spelled absent ⊢
      simp only [Bool.or_eq_true, beq_iff_eq, not_or] at kept
      simp only [List.cons_append, List.nil_append, List.cons.injEq, true_and] at spelled
      have lone := ih spelled (fun mem => absent (by simp [mem]))
      exact LoneEscapes.escape kept.2 (LoneEscapes.cons kept.2 lone)
  | @char c cs content rest plain inner ih =>
    simp only [List.cons_append, List.cons.injEq, true_and] at spelled
    exact LoneEscapes.cons plain.1 (ih spelled (fun mem => absent (List.mem_cons_of_mem c mem)))

/-! ### Quoted words read alone -/

/-- A word without a single quote, between single quotes, is read as one word over the whole
text. -/
theorem lex_single_quoted {a : String} (absent : '\'' ∉ a.toList) :
    lex ("'" ++ a ++ "'") = .ok [⟨.word a, ⟨0, ("'" ++ a ++ "'").utf8ByteSize⟩⟩] := by
  have spelled : ("'" ++ a ++ "'").toList = '\'' :: (a.toList ++ '\'' :: []) := by simp
  have lead : leadOf false '\'' (a.toList ++ ['\'']).head? = .single := by simp [leadOf]
  rw [Shell.lex, spelled, scan_opening_single Mode.unquoted_gap lead]
  simp only [Mode.word]
  rw [scan_single_body false _ 0 0 [] a.toList "" 1 absent, scan.eq_2, utf8ByteSize_eq_byteSize,
    spelled]
  have quoteSize : '\''.utf8Size = 1 := rfl
  simp [wordToken, quoteSize, Nat.add_comm]

/-- A word without a double quote and with lone backslashes, between double quotes, is read as
one word over the whole text. -/
theorem lex_double_quoted {a : String} (absent : '"' ∉ a.toList) (lone : LoneEscapes a.toList) :
    lex ("\"" ++ a ++ "\"") = .ok [⟨.word a, ⟨0, ("\"" ++ a ++ "\"").utf8ByteSize⟩⟩] := by
  have spelled : ("\"" ++ a ++ "\"").toList = '"' :: (a.toList ++ '"' :: []) := by simp
  have lead : leadOf false '"' (a.toList ++ ['"']).head? = .double := by simp [leadOf]
  obtain ⟨p, closed, bytes⟩ := (DoubleQuoted.self [] absent lone).scan false
    ("\"" ++ a ++ "\"").utf8ByteSize 0 0 "" 1
  rw [Shell.lex, spelled, scan_opening_double Mode.unquoted_gap lead]
  simp only [Mode.word]
  rw [closed, scan.eq_2, utf8ByteSize_eq_byteSize, spelled]
  have ends : p = byteSize ('"' :: (a.toList ++ ['"'])) := by
    have quoteSize : '"'.utf8Size = 1 := rfl
    simp only [byteSize_nil, byteSize_cons, byteSize_append, quoteSize] at bytes ⊢
    omega
  simp [wordToken, ends]

/-! ### Which words are quoted -/

theorem quote_of_single {a : String} (absent : '\'' ∉ a.toList) : quote a = .ok ("'" ++ a ++ "'") := by
  have notContains : a.contains '\'' = false := by simpa using absent
  unfold quote
  simp only [notContains, Bool.not_false, if_true, lex_single_quoted absent, beq_self_eq_true]

theorem quote_of_double {a : String} (present : '\'' ∈ a.toList) (absent : '"' ∉ a.toList)
    (noDollar : '$' ∉ a.toList) (lone : LoneEscapes a.toList) :
    quote a = .ok ("\"" ++ a ++ "\"") := by
  have single : a.contains '\'' = true := by simpa using present
  have double : a.contains '"' = false := by simpa using absent
  have dollar : a.contains '$' = false := by simpa using noDollar
  unfold quote
  simp only [single, double, dollar, Bool.not_true, Bool.not_false, Bool.and_self,
    Bool.false_eq_true, if_false, if_true, lex_double_quoted absent lone, beq_self_eq_true]

/-- A word with a single quote and a double quote or a dollar sign is refused before any text is
read. -/
theorem quote_of_unquotable {a : String} (present : '\'' ∈ a.toList)
    (expands : '"' ∈ a.toList ∨ '$' ∈ a.toList) : quote a = .error (.unquotable a) := by
  have single : a.contains '\'' = true := by simpa using present
  have either : a.contains '"' = true ∨ a.contains '$' = true := by simpa using expands
  have blocked : (!a.contains '"' && !a.contains '$') = false := by
    rcases either with double | dollar
    · simp [double]
    · simp [dollar]
  unfold quote
  simp only [single, blocked, Bool.not_true, Bool.false_eq_true, if_false]

theorem quote_eq_ok_cases {a q : String} (quoted : quote a = .ok q) :
    ('\'' ∉ a.toList ∧ q = "'" ++ a ++ "'") ∨
      ('\'' ∈ a.toList ∧ '"' ∉ a.toList ∧ '$' ∉ a.toList ∧ LoneEscapes a.toList ∧
        q = "\"" ++ a ++ "\"") := by
  by_cases single : '\'' ∈ a.toList
  · by_cases expands : '"' ∈ a.toList ∨ '$' ∈ a.toList
    · rw [quote_of_unquotable single expands] at quoted
      cases quoted
    · obtain ⟨absent, noDollar⟩ := not_or.1 expands
      obtain ⟨⟨span, alone⟩, ⟨-, unquoted⟩ | ⟨rfl, -⟩⟩ := quote_eq_ok quoted
      · exact absurd single unquoted
      -- read back alone, the body is read between double quotes as itself
      have spelled : ("\"" ++ a ++ "\"").toList = '"' :: a.toList ++ ['"'] := by simp
      obtain ⟨content, inner, same⟩ := DoubleQuoted.of_lex absent spelled alone
      have body : content = a.toList := by rw [same, String.toList_ofList]
      subst body
      exact .inr ⟨single, absent, noDollar, inner.loneEscapes rfl absent, rfl⟩
  · rw [quote_of_single single] at quoted
    exact .inl ⟨single, (Except.ok.inj quoted).symm⟩

/-- `quote` succeeds exactly on the words it can write faithfully: a word without a single quote
goes between single quotes; one with a single quote goes between double quotes when it has no
double quote or dollar sign, no two backslashes together and no backslash at its end. What it
returns is read as exactly one token, that word, spanning the whole text. -/
theorem quote_faithful (a q : String) :
    (quote a = .ok q ↔
      ('\'' ∉ a.toList ∧ q = "'" ++ a ++ "'") ∨
      ('\'' ∈ a.toList ∧ '"' ∉ a.toList ∧ '$' ∉ a.toList ∧ ¬ ['\\', '\\'] <:+: a.toList ∧
        a.toList.getLast? ≠ some '\\' ∧ q = "\"" ++ a ++ "\"")) ∧
    (quote a = .ok q → lex q = .ok [⟨.word a, ⟨0, q.utf8ByteSize⟩⟩]) := by
  constructor
  · constructor
    · intro quoted
      rcases quote_eq_ok_cases quoted with single | ⟨present, absent, noDollar, lone, rfl⟩
      · exact .inl single
      · exact .inr ⟨present, absent, noDollar, lone.unpaired, lone.unfinished, rfl⟩
    · rintro (⟨absent, rfl⟩ | ⟨present, absent, noDollar, unpaired, unfinished, rfl⟩)
      · exact quote_of_single absent
      · exact quote_of_double present absent noDollar ⟨unpaired, unfinished⟩
  · intro quoted
    rcases quote_eq_ok_cases quoted with ⟨absent, rfl⟩ | ⟨-, absent, -, lone, rfl⟩
    · exact lex_single_quoted absent
    · exact lex_double_quoted absent lone

/-- A word with a single quote and a lone backslash goes between double quotes and is read back
as itself. -/
theorem quote_faithful_apostrophe :
    quote "it's \\x" = .ok "\"it's \\x\"" ∧
      lex "\"it's \\x\"" = .ok [⟨.word "it's \\x", ⟨0, 9⟩⟩] := by
  have quoted : quote "it's \\x" = .ok "\"it's \\x\"" :=
    (quote_faithful "it's \\x" "\"it's \\x\"").1.2
      (.inr ⟨by decide, by decide, by decide, by decide, by decide, rfl⟩)
  exact ⟨quoted, (quote_faithful "it's \\x" "\"it's \\x\"").2 quoted⟩

end Pipework.Shell
