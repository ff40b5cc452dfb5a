import Pipework.Proofs.Shell.Quoting

/-! Where a caret diagnostic points. -/

namespace Pipework.Shell

open Pipework.Text

/-! ### The characters before an offset -/

theorem byteSize_eq_zero {cs : List Char} (empty : byteSize cs = 0) : cs = [] := by
  cases cs with
  | nil => rfl
  | cons c rest =>
    have wide := Char.utf8Size_pos c
    simp only [byteSize_cons] at empty
    omega

theorem prefixOfBytes_append (pre suf : List Char) :
    prefixOfBytes (pre ++ suf) (byteSize pre) = some pre := by
  induction pre with
  | nil => cases suf <;> rfl
  | cons c rest ih =>
    have wide := Char.utf8Size_pos c
    obtain ⟨n, size⟩ : ∃ n, byteSize (c :: rest) = n + 1 :=
      ⟨c.utf8Size + byteSize rest - 1, by simp only [byteSize_cons]; omega⟩
    have fits : c.utf8Size ≤ n + 1 := by simp only [byteSize_cons] at size; omega
    have left : n + 1 - c.utf8Size = byteSize rest := by simp only [byteSize_cons] at size; omega
    rw [size, List.cons_append, prefixOfBytes, if_pos fits, left, ih]
    rfl

theorem prefixOfBytes_of_lt {cs : List Char} {n : Nat} (past : byteSize cs < n) :
    prefixOfBytes cs n = none := by
  induction cs generalizing n with
  | nil =>
    obtain ⟨m, rfl⟩ : ∃ m, n = m + 1 := ⟨n - 1, by simp only [byteSize_nil] at past; omega⟩
    rfl
  | cons c rest ih =>
    obtain ⟨m, rfl⟩ : ∃ m, n = m + 1 := ⟨n - 1, by omega⟩
    simp only [byteSize_cons] at past
    rw [prefixOfBytes]
    split
    · rw [ih (by omega)]
      rfl
    · rfl

theorem prefix_unique_of_byteSize {p q s t : List Char} (same : p ++ s = q ++ t)
    (size : byteSize p = byteSize q) : p = q := by
  rcases List.append_eq_append_iff.1 same with ⟨extra, rfl, -⟩ | ⟨extra, rfl, -⟩
  · simp only [byteSize_append] at size
    have empty : extra = [] := byteSize_eq_zero (by omega)
    rw [empty, List.append_nil]
  · simp only [byteSize_append] at size
    have empty : extra = [] := byteSize_eq_zero (by omega)
    rw [empty, List.append_nil]

/-- The head of a text before an offset that falls on a character boundary, or past the end
where the offset is clamped to the end: the prefix of the text with that many bytes. -/
theorem headBefore_prefix {cs : List Char} {start : Nat}
    (boundary : (∃ pre suf, cs = pre ++ suf ∧ byteSize pre = start) ∨ byteSize cs ≤ start) :
    ∃ rest, cs = headBefore cs start ++ rest ∧
      byteSize (headBefore cs start) = min start (byteSize cs) := by
  rcases boundary with ⟨pre, suf, rfl, rfl⟩ | past
  · refine ⟨suf, ?_, ?_⟩ <;> rw [headBefore, prefixOfBytes_append]
    · rfl
    · simp
  · have whole : prefixOfBytes cs (byteSize cs) = some cs := by
      simpa using prefixOfBytes_append cs []
    refine ⟨[], ?_, ?_⟩ <;> rcases Nat.lt_or_eq_of_le past with beyond | rfl
    · rw [headBefore, prefixOfBytes_of_lt beyond, Option.getD_none, List.append_nil]
    · rw [headBefore, whole, Option.getD_some, List.append_nil]
    · rw [headBefore, prefixOfBytes_of_lt beyond, Option.getD_none]
      omega
    · rw [headBefore, whole, Option.getD_some]
      simp

/-! ### The line of an offset -/

/-- A text cut at a byte offset: the whole lines before the offset's line, that line's
characters before the offset and from it on, and the rest of the text from the line's newline
on. -/
structure LineCut (cs : List Char) (offset : Nat) where
  before : List Char
  left : List Char
  right : List Char
  after : List Char
  whole : cs = before ++ left ++ right ++ after
  at_offset : byteSize (before ++ left) = offset
  starts_line : before = [] ∨ before.getLast? = some '\n'
  left_plain : '\n' ∉ left
  right_plain : '\n' ∉ right
  ends_line : after = [] ∨ after.head? = some '\n'

theorem not_mem_takeWhile_newline {cs : List Char} : '\n' ∉ cs.takeWhile (· != '\n') := by
  intro mem
  simpa using List.mem_takeWhile_imp mem

theorem head?_dropWhile_newline (cs : List Char) :
    cs.dropWhile (· != '\n') = [] ∨ (cs.dropWhile (· != '\n')).head? = some '\n' := by
  have stopped := List.head?_dropWhile_not (· != '\n') cs
  rcases found : (cs.dropWhile (· != '\n')).head? with _ | c
  · exact .inl (List.head?_eq_none_iff.1 found)
  · rw [found] at stopped
    simp only [bne_eq_false_iff_eq] at stopped
    exact .inr (by rw [stopped])

/-- The cut at the end of a head of a text: the head's last line before the offset, the rest's
first line after it. -/
def LineCut.ofHead {cs head rest : List Char} {offset : Nat} (whole : cs = head ++ rest)
    (size : byteSize head = offset) : LineCut cs offset where
  before := (head.reverse.dropWhile (· != '\n')).reverse
  left := (head.reverse.takeWhile (· != '\n')).reverse
  right := rest.takeWhile (· != '\n')
  after := rest.dropWhile (· != '\n')
  whole := by
    rw [List.append_assoc _ (rest.takeWhile _), List.takeWhile_append_dropWhile,
      ← List.reverse_append, List.takeWhile_append_dropWhile, List.reverse_reverse, whole]
  at_offset := by
    rw [← List.reverse_append, List.takeWhile_append_dropWhile, List.reverse_reverse, size]
  starts_line := by
    rcases head?_dropWhile_newline head.reverse with empty | newline
    · exact .inl (by rw [empty, List.reverse_nil])
    · exact .inr (by rw [List.getLast?_reverse, newline])
  left_plain := by
    rw [List.mem_reverse]
    exact not_mem_takeWhile_newline
  right_plain := not_mem_takeWhile_newline
  ends_line := head?_dropWhile_newline rest

theorem LineCut.head_eq {cs : List Char} {offset : Nat} (cut : LineCut cs offset) :
    cs = (cut.before ++ cut.left) ++ (cut.right ++ cut.after) := by
  have whole := cut.whole
  simp only [List.append_assoc] at whole ⊢
  exact whole

/-- A line start cannot be moved past characters of a line: an extension of a part that is
empty or ends with a newline, by characters without a newline, is no extension. -/
theorem eq_nil_of_ends_line {p extra rest : List Char}
    (starts : p ++ extra = [] ∨ (p ++ extra).getLast? = some '\n') (plain : '\n' ∉ extra ++ rest) :
    extra = [] := by
  rcases List.eq_nil_or_concat extra with done | ⟨init, c, rfl⟩
  · exact done
  · have last : c = '\n' := by simpa [← List.append_assoc] using starts
    exact absurd (by simp [last]) plain

/-- A line end cannot be moved past characters of a line: characters without a newline in front
of a part that is empty or starts with a newline are none. -/
theorem eq_nil_of_starts_line {extra a q : List Char}
    (ends : extra ++ a = [] ∨ (extra ++ a).head? = some '\n') (plain : '\n' ∉ q ++ extra) :
    extra = [] := by
  cases extra with
  | nil => rfl
  | cons c cs =>
    have first : c = '\n' := by simpa using ends
    exact absurd (by simp [first]) plain

/-- A head cut into a part that is empty or ends with a newline and a part without newlines is
cut at its last newline. -/
theorem lastLine_unique {b l b' l' : List Char} (same : b ++ l = b' ++ l')
    (starts : b = [] ∨ b.getLast? = some '\n') (starts' : b' = [] ∨ b'.getLast? = some '\n')
    (plain : '\n' ∉ l) (plain' : '\n' ∉ l') : b = b' := by
  -- the longer of the two first parts would end inside the other's last line
  rcases List.append_eq_append_iff.1 same with ⟨extra, rfl, rfl⟩ | ⟨extra, rfl, rfl⟩
  · rw [eq_nil_of_ends_line starts' plain, List.append_nil]
  · rw [eq_nil_of_ends_line starts plain', List.append_nil]

/-- A rest cut into a part without newlines and a part that is empty or starts with a newline is
cut at its first newline. -/
theorem firstLine_unique {r a r' a' : List Char} (same : r ++ a = r' ++ a')
    (plain : '\n' ∉ r) (plain' : '\n' ∉ r')
    (ends : a = [] ∨ a.head? = some '\n') (ends' : a' = [] ∨ a'.head? = some '\n') : r = r' := by
  -- the longer of the two first parts would hold the other's newline
  rcases List.append_eq_append_iff.1 same with ⟨extra, rfl, rfl⟩ | ⟨extra, rfl, rfl⟩
  · rw [eq_nil_of_starts_line ends plain', List.append_nil]
  · rw [eq_nil_of_starts_line ends' plain, List.append_nil]

theorem LineCut.unique {cs : List Char} {offset : Nat} (cut cut' : LineCut cs offset) :
    cut.before = cut'.before ∧ cut.left = cut'.left ∧ cut.right = cut'.right ∧
      cut.after = cut'.after := by
  have head : cut.before ++ cut.left = cut'.before ++ cut'.left :=
    prefix_unique_of_byteSize (cut.head_eq.symm.trans cut'.head_eq)
      (cut.at_offset.trans cut'.at_offset.symm)
  have tail : cut.right ++ cut.after = cut'.right ++ cut'.after :=
    List.append_cancel_left (head ▸ cut.head_eq.symm.trans cut'.head_eq)
  have before := lastLine_unique head cut.starts_line cut'.starts_line cut.left_plain cut'.left_plain
  have right := firstLine_unique tail cut.right_plain cut'.right_plain cut.ends_line cut'.ends_line
  refine ⟨before, List.append_cancel_left (before ▸ head), right,
    List.append_cancel_left (right ▸ tail)⟩

/-! ### Locating and quoting -/

/-- `Span.locate` reads the cut at the clamped offset: the line number is one more than the
newlines before the offset, the column the number of characters of the line before it, and the
text the whole line. -/
theorem locate_eq_cut (source : String) (span : Span)
    (boundary : (∃ pre suf, source.toList = pre ++ suf ∧ byteSize pre = span.start) ∨
      source.utf8ByteSize ≤ span.start) :
    ∃ cut : LineCut source.toList (min span.start source.utf8ByteSize),
      span.locate source = { line := (cut.before ++ cut.left).count '\n' + 1,
                             column := cut.left.length,
                             text := String.ofList (cut.left ++ cut.right) } := by
  rw [utf8ByteSize_eq_byteSize] at boundary ⊢
  obtain ⟨rest, whole, size⟩ := headBefore_prefix boundary
  generalize named : headBefore source.toList span.start = head at whole size
  refine ⟨LineCut.ofHead whole size, ?_⟩
  have dropped : source.toList.drop head.length = rest := by
    rw [whole]
    exact List.drop_left' rfl
  simp only [Span.locate, named, LineCut.ofHead, dropped, ← List.reverse_append,
    List.takeWhile_append_dropWhile, List.reverse_reverse]

theorem padLineNumber_length (n : Nat) :
    (padLineNumber n).toList.length = max 3 (toString n).length := by
  simp only [padLineNumber, String.toList_append, String.toList_ofList, List.length_append,
    List.length_replicate, String.length_toList]
  omega

/-- A caret diagnostic ends with two lines: the located line behind the line number's field and
`" | "`, and the carets, one per byte of the span and at least one, behind `"   | "` and one blank
per character of the line before the located offset. -/
theorem diagnostic_toList (source : String) (span : Span) (message : String) :
    ∃ header : List Char, (span.diagnostic source message).toList =
      header ++ (padLineNumber (span.locate source).line).toList ++ " | ".toList ++
        (span.locate source).text.toList ++ '\n' ::
          ("   | ".toList ++ List.replicate (span.locate source).column ' ' ++
            List.replicate (max 1 span.length) '^') := by
  have gutter : "\n   | ".toList = '\n' :: "   | ".toList := by decide
  refine ⟨("error: " ++ message ++ "\n  --> line " ++ toString (span.locate source).line ++
    ", column " ++ toString ((span.locate source).column + 1) ++ "\n   |\n").toList, ?_⟩
  unfold Span.diagnostic
  simp only [String.toList_append, String.toList_ofList]
  rw [gutter]
  simp only [List.append_assoc, List.cons_append]

/-- What a caret diagnostic shows for a span starting on a character boundary or past the end
of its source. The start, clamped to the end, cuts the source into lines (`LineCut`); the
location names the line by one more than the newlines before the offset, the column by the
line's characters before it, and quotes the whole line. The diagnostic's last two lines are that
line behind the line number's field, of at least three characters, and `" | "`, and the caret
run behind `"   | "` and one blank per character before the offset. So the offset's character
stands at column `w + 3 + c` of its line and the first caret at column `5 + c` of the next, for a
field of width `w ≥ 3` and a column `c`: the caret is `w - 2` columns to its left. -/
theorem diagnostic_quotes_line_and_carets (source : String) (span : Span) (message : String)
    (boundary : (∃ pre suf, source.toList = pre ++ suf ∧ byteSize pre = span.start) ∨
      source.utf8ByteSize ≤ span.start) :
    ∃ cut : LineCut source.toList (min span.start source.utf8ByteSize),
      span.locate source = { line := (cut.before ++ cut.left).count '\n' + 1,
                             column := cut.left.length,
                             text := String.ofList (cut.left ++ cut.right) } ∧
      (∃ header : List Char, (span.diagnostic source message).toList =
        header ++ (padLineNumber ((cut.before ++ cut.left).count '\n' + 1)).toList ++
          " | ".toList ++ cut.left ++ cut.right ++ '\n' ::
            ("   | ".toList ++ List.replicate cut.left.length ' ' ++
              List.replicate (max 1 span.length) '^')) ∧
      (padLineNumber ((cut.before ++ cut.left).count '\n' + 1)).toList.length =
        max 3 (toString ((cut.before ++ cut.left).count '\n' + 1)).length := by
  obtain ⟨cut, located⟩ := locate_eq_cut source span boundary
  obtain ⟨header, shown⟩ := diagnostic_toList source span message
  refine ⟨cut, located, ⟨header, ?_⟩, padLineNumber_length _⟩
  rw [shown, located]
  simp only [String.toList_ofList, List.append_assoc]

/-- A span at `x` on the second line of `a⏎é x`: the offset falls after the two bytes of `é`
and the blank, two characters into the line. -/
theorem diagnostic_quotes_line_and_carets_accented :
    ((∃ pre suf, "a\né x".toList = pre ++ suf ∧ byteSize pre = 5) ∨ "a\né x".utf8ByteSize ≤ 5) ∧
    ∃ cut : LineCut "a\né x".toList (min 5 "a\né x".utf8ByteSize),
      Span.locate "a\né x" ⟨5, 6⟩ =
        { line := (cut.before ++ cut.left).count '\n' + 1,
          column := cut.left.length,
          text := String.ofList (cut.left ++ cut.right) } ∧
      (∃ header : List Char, (Span.diagnostic "a\né x" ⟨5, 6⟩ "m").toList =
        header ++ (padLineNumber ((cut.before ++ cut.left).count '\n' + 1)).toList ++
          " | ".toList ++ cut.left ++ cut.right ++ '\n' ::
            ("   | ".toList ++ List.replicate cut.left.length ' ' ++
              List.replicate (max 1 (Span.length ⟨5, 6⟩)) '^')) ∧
      (padLineNumber ((cut.before ++ cut.left).count '\n' + 1)).toList.length =
        max 3 (toString ((cut.before ++ cut.left).count '\n' + 1)).length := by
  have boundary : (∃ pre suf, "a\né x".toList = pre ++ suf ∧ byteSize pre = 5) ∨
      "a\né x".utf8ByteSize ≤ 5 := .inl ⟨['a', '\n', 'é', ' '], ['x'], by decide, by decide⟩
  exact ⟨boundary, diagnostic_quotes_line_and_carets "a\né x" ⟨5, 6⟩ "m" boundary⟩

/-- The caret under `|` in `true && | x` stands under the blank before it: the quoted line and
the caret line, paired column by column, put the first caret under a blank. -/
theorem caret_under_blank_before_offset :
    Span.diagnostic "true && | x" ⟨8, 9⟩ "unexpected '|'" =
      "error: unexpected '|'\n  --> line 1, column 9\n   |\n  1 | true && | x\n   |         ^" ∧
    ("  1 | true && | x".toList.zip "   |         ^".toList).find? (·.2 == '^') = some (' ', '^') ∧
    "  1 | true && | x".toList[14]? = some '|' := by
  refine ⟨?_, by decide, by decide⟩
  decide

end Pipework.Shell
