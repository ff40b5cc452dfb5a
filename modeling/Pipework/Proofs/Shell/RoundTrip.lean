import Pipework.Proofs.Shell.Lexing
import Pipework.Proofs.Shell.Parsing
import Pipework.Shell.Render
import Pipework.Tcl.Exec

/-! Rendering a command tree and reading the text back. -/

namespace Pipework.Shell

/-! ### The token kinds a tree is written as -/

/-- A redirection is its operator with its descriptor, then its target. -/
def Redirect.kinds (r : Redirect) : List TokenKind :=
  [.redirect r.op r.fd, .word r.target]

/-- A command is its words, then its redirections. -/
def SimpleCommand.kinds (c : SimpleCommand) : List TokenKind :=
  c.args.map .word ++ c.redirects.flatMap Redirect.kinds

/-- A pipeline is its commands joined by pipes, after a `!` when it is negated. -/
def Pipeline.kinds (p : Pipeline) : List TokenKind :=
  (if p.negate then [.bang] else []) ++ [.pipe].intercalate (p.commands.map SimpleCommand.kinds)

/-- A tree is its pipelines joined by their operators. -/
def CommandTree.kinds : CommandTree → List TokenKind
  | .pipeline p => p.kinds
  | .sequence left op right => left.kinds ++ [op.token] ++ right.kinds

theorem intercalate_append_singleton {α : Type} (sep x : List α) :
    ∀ {xs : List (List α)}, xs ≠ [] → sep.intercalate (xs ++ [x]) = sep.intercalate xs ++ sep ++ x
  | [y], _ => by simp [List.intercalate_cons_cons]
  | y :: z :: zs, _ => by
    rw [List.cons_append, List.intercalate_cons_of_ne_nil (by simp),
      intercalate_append_singleton sep x (List.cons_ne_nil z zs), List.intercalate_cons_cons]
    simp

theorem nil_intercalate {α : Type} : ∀ xss : List (List α), ([] : List α).intercalate xss = xss.flatten
  | [] => rfl
  | [xs] => by simp
  | xs :: ys :: yss => by
    rw [List.intercalate_cons_cons, nil_intercalate (ys :: yss)]
    simp

/-! ### The kinds derive the tree -/

theorem commandSyntax_args {args : List String} (program : args ≠ []) :
    CommandSyntax (args.map .word) ⟨args, []⟩ := by
  induction args using List.reverseRecOn with
  | nil => exact absurd rfl program
  | append_singleton args a ih =>
    by_cases alone : args = []
    · subst alone
      exact .program a
    · simpa using (ih alone).word a

theorem CommandSyntax.append_redirects {ks : List TokenKind} {c : SimpleCommand}
    (command : CommandSyntax ks c) (rs : List Redirect) :
    CommandSyntax (ks ++ rs.flatMap Redirect.kinds) ⟨c.args, c.redirects ++ rs⟩ := by
  induction rs using List.reverseRecOn with
  | nil => simpa using command
  | append_singleton rs r ih =>
    simpa [Redirect.kinds] using ih.redirect r.op r.fd r.target

theorem SimpleCommand.commandSyntax {c : SimpleCommand} (program : c.args ≠ []) :
    CommandSyntax c.kinds c := by
  obtain ⟨args, redirects⟩ := c
  simpa [SimpleCommand.kinds] using (commandSyntax_args program).append_redirects redirects

theorem stagesSyntax_of_commands {cs : List SimpleCommand} (nonempty : cs ≠ [])
    (programs : ∀ c ∈ cs, c.args ≠ []) :
    StagesSyntax ([.pipe].intercalate (cs.map SimpleCommand.kinds)) cs := by
  induction cs using List.reverseRecOn with
  | nil => exact absurd rfl nonempty
  | append_singleton cs c ih =>
    have command := SimpleCommand.commandSyntax (programs c (by simp))
    by_cases alone : cs = []
    · subst alone
      simpa using StagesSyntax.first command
    · have stages := ih alone (fun c' mem => programs c' (by simp [mem]))
      rw [List.map_append, List.map_singleton,
        intercalate_append_singleton _ _ (by simpa using alone)]
      simpa using stages.pipe command

theorem Pipeline.pipelineSyntax {p : Pipeline} (wf : p.WellFormed) :
    PipelineSyntax p.pipeFail p.kinds p := by
  obtain ⟨cs, pipeFail, negate⟩ := p
  have stages := stagesSyntax_of_commands wf.nonempty fun c mem => (wf.commands c mem).program
  cases negate with
  | false => simpa [Pipeline.kinds] using (PipelineSyntax.plain stages : PipelineSyntax pipeFail _ _)
  | true =>
    simpa [Pipeline.kinds] using (PipelineSyntax.negated stages : PipelineSyntax pipeFail _ _)

/-- A tree that leans left, whose pipelines are well formed and agree on failing, is what its
kinds derive. -/
theorem CommandTree.lineSyntax {pipeFail : Bool} {t : CommandTree} (leaning : t.LeftLeaning)
    (pipelines : ∀ p ∈ t.pipelines, p.WellFormed ∧ p.pipeFail = pipeFail) :
    LineSyntax pipeFail t.kinds t := by
  induction leaning with
  | pipeline p =>
    obtain ⟨wf, agrees⟩ := pipelines p (by simp [CommandTree.pipelines])
    exact .pipeline (agrees ▸ p.pipelineSyntax wf)
  | sequence op p _ ih =>
    obtain ⟨wf, agrees⟩ := pipelines p (by simp [CommandTree.pipelines])
    have left := ih fun q mem => pipelines q (by simp [mem])
    simpa [CommandTree.kinds] using
      LineSyntax.sequence left op.seqOp?_token (agrees ▸ p.pipelineSyntax wf)

/-! ### Rendered text is read as the kinds -/

theorem bind_eq_ok {ε α β : Type} {x : Except ε α} {f : α → Except ε β} {b : β} :
    x >>= f = .ok b ↔ ∃ a, x = .ok a ∧ f a = .ok b := by
  cases x with
  | error e => simp [bind, Except.bind]
  | ok a => simp [bind, Except.bind]

theorem forall₂_of_mapM {α β ε : Type} {f : α → Except ε β} :
    ∀ {xs : List α} {ys : List β}, xs.mapM f = .ok ys → List.Forall₂ (fun x y => f x = .ok y) xs ys
  | [], ys, mapped => by
    cases mapped
    exact .nil
  | x :: xs, ys, mapped => by
    rw [List.mapM_cons] at mapped
    obtain ⟨y, fx, mapped⟩ := bind_eq_ok.1 mapped
    obtain ⟨ys', rest, mapped⟩ := bind_eq_ok.1 mapped
    cases mapped
    exact .cons fx (forall₂_of_mapM rest)

theorem map_ne_nil_of_mapM {α β γ ε : Type} {f : α → Except ε β} {g : β → γ} {xs : List α}
    {ys : List β} (mapped : xs.mapM f = .ok ys) (nonempty : xs ≠ []) : ys.map g ≠ [] := by
  have lengths := (forall₂_of_mapM mapped).length_eq
  rw [Ne, List.map_eq_nil_iff, ← List.length_eq_zero_iff, ← lengths, List.length_eq_zero_iff]
  exact nonempty

theorem forall₂_lexes_of_mapM {α : Type} {render : α → Except RenderError String}
    {kinds : α → List TokenKind} {xs : List α} {ys : List String} (mapped : xs.mapM render = .ok ys)
    (lexes : ∀ x ∈ xs, ∀ y, render x = .ok y → Lexes y.toList (kinds x)) :
    List.Forall₂ Lexes (ys.map String.toList) (xs.map kinds) :=
  List.forall₂_map_left_iff.2 <| List.forall₂_map_right_iff.2 <| List.Forall₂.flip <|
    ((List.forall₂_and_left _ _).2 ⟨lexes, forall₂_of_mapM mapped⟩).imp
      fun _ y ⟨read, rendered⟩ => read y rendered

/-- What `quote` returns reads back alone as the word, and it is the word between single quotes
when the word has no single quote, or else between double quotes when it has no double
quote. -/
theorem quote_eq_ok {arg q : String} (quoted : quote arg = .ok q) :
    (∃ span, lex q = .ok [⟨.word arg, span⟩]) ∧
      ((q = "'" ++ arg ++ "'" ∧ '\'' ∉ arg.toList) ∨
        (q = "\"" ++ arg ++ "\"" ∧ '"' ∉ arg.toList)) := by
  unfold quote at quoted
  generalize chosen : (if (!arg.contains '\'') = true then some ("'" ++ arg ++ "'")
    else if (!arg.contains '"' && !arg.contains '$') = true then some ("\"" ++ arg ++ "\"")
    else none) = form at quoted
  cases form with
  | none => cases quoted
  | some form =>
    simp only at quoted
    split at quoted
    · next w span lexed =>
      split at quoted
      · next same =>
        cases quoted
        refine ⟨⟨span, by rw [lexed, eq_of_beq same]⟩, ?_⟩
        -- which quotes were chosen
        split at chosen
        · next single =>
          cases chosen
          exact .inl ⟨rfl, by simpa using single⟩
        · split at chosen
          · next double =>
            cases chosen
            exact .inr ⟨rfl, by simp_all⟩
          · cases chosen
      · cases quoted
    · cases quoted

theorem quote_lexes {arg q : String} (quoted : quote arg = .ok q) : Lexes q.toList [.word arg] := by
  obtain ⟨⟨span, alone⟩, ⟨rfl, absent⟩ | ⟨rfl, absent⟩⟩ := quote_eq_ok quoted
  · simpa using lexes_single_quoted absent
  · have spelled : ("\"" ++ arg ++ "\"").toList = '"' :: arg.toList ++ ['"'] := by simp
    rw [spelled]
    exact lexes_double_quoted absent spelled alone

theorem Redirect.render_eq (r : Redirect) : r.render =
    if ((r.op == .dupOutput || r.op == .dupInput) && isDigitRun r.target) = true then
      .ok (r.fd.elim "" toString ++ r.op.symbol ++ r.target)
    else quote r.target >>= fun q => .ok (r.fd.elim "" toString ++ r.op.symbol ++ " " ++ q) := by
  obtain ⟨op, fd, target⟩ := r
  cases fd <;> rfl

theorem readsAs_redirect_operator {op : RedirectOp} {fd : Option Nat} (fits : DescriptorFits op fd) :
    ReadsAs OperatorEnds (fd.elim "" toString ++ op.symbol).toList [.redirect op fd] := by
  rw [String.toList_append]
  cases fd with
  | none => simpa using readsAs_redirect_none op
  | some n => exact readsAs_redirect_some (fun both => nomatch fits.1 both) (fits.2 n rfl)

theorem Redirect.render_lexes {r : Redirect} (fits : DescriptorFits r.op r.fd) {s : String}
    (rendered : r.render = .ok s) : Lexes s.toList r.kinds := by
  have operator := readsAs_redirect_operator fits
  rw [Redirect.render_eq] at rendered
  split at rendered
  · next bare =>
    -- a duplication onto a descriptor number: the digits follow the operator directly
    cases rendered
    have run : r.target ≠ "" ∧ ∀ c ∈ r.target.toList, c.isDigit = true := by
      simp only [isDigitRun, Bool.and_eq_true, Bool.not_eq_true'] at bare
      exact ⟨String.isEmpty_iff.not.1 (by simp [bare.2.1]), by simpa using bare.2.2⟩
    obtain ⟨d, ds, spelled⟩ :=
      List.exists_cons_of_ne_nil (show r.target.toList ≠ [] by simpa using run.1)
    have digits : ∀ e ∈ d :: ds, e.isDigit = true := spelled ▸ run.2
    have target : Lexes r.target.toList [.word r.target] := by
      have word := lexes_digit_run digits
      rwa [← spelled, String.ofList_toList] at word
    have ends : ∀ rest, Separates rest → OperatorEnds (r.target.toList ++ rest) := by
      intro rest _
      rw [spelled]
      refine operatorEnds_cons ⟨?_, ?_⟩ _ <;>
        · rintro rfl
          exact absurd (digits _ List.mem_cons_self) (by decide)
    simpa [Redirect.kinds, Lexes] using ReadsAs.append operator target ends
  · -- any other target is quoted after a blank
    obtain ⟨q, quoted, rendered⟩ := bind_eq_ok.1 rendered
    cases rendered
    have blankThenTarget := Joint.blank.leading.append (quote_lexes quoted)
    have read := ReadsAs.append operator blankThenTarget
      (fun rest _ => operatorEnds_cons (by decide) _)
    simpa [Redirect.kinds, Lexes] using read

theorem SimpleCommand.render_lexes {c : SimpleCommand} (wf : c.WellFormed) {s : String}
    (rendered : c.render = .ok s) : Lexes s.toList c.kinds := by
  unfold SimpleCommand.render at rendered
  obtain ⟨qs, quoted, rendered⟩ := bind_eq_ok.1 rendered
  obtain ⟨rs, redirected, rendered⟩ := bind_eq_ok.1 rendered
  cases rendered
  have args : List.Forall₂ Lexes (qs.map String.toList) (c.args.map fun a => [TokenKind.word a]) :=
    forall₂_lexes_of_mapM quoted fun _ _ _ => quote_lexes
  have redirects : List.Forall₂ Lexes (rs.map String.toList) (c.redirects.map Redirect.kinds) :=
    forall₂_lexes_of_mapM redirected fun r mem _ => r.render_lexes (wf.redirects r mem)
  have pieces : List.Forall₂ Lexes ((qs ++ rs).map String.toList)
      (c.args.map (fun a => [TokenKind.word a]) ++ c.redirects.map Redirect.kinds) := by
    rw [List.map_append]
    exact List.rel_append args redirects
  have nonempty : (qs ++ rs).map String.toList ≠ [] := by
    rw [List.map_append]
    exact List.append_ne_nil_of_left_ne_nil (map_ne_nil_of_mapM quoted wf.program) _
  have spelled : (" ".intercalate (qs ++ rs)).toList =
      [' '].intercalate ((qs ++ rs).map String.toList) := by
    simp [String.toList_intercalate]
  have kinds : c.kinds = ([] : List TokenKind).intercalate
      (c.args.map (fun a => [TokenKind.word a]) ++ c.redirects.map Redirect.kinds) := by
    rw [nil_intercalate, List.flatten_append, SimpleCommand.kinds,
      List.map_eq_flatMap (f := TokenKind.word)]
    rfl
  rw [spelled, kinds]
  exact Lexes.intercalate Joint.blank pieces nonempty

theorem Pipeline.render_eq_ok {p : Pipeline} {pipeFail : Bool} {s : String}
    (rendered : p.render pipeFail = .ok s) : p.pipeFail = pipeFail ∧ ∃ cs,
      p.commands.mapM SimpleCommand.render = .ok cs ∧
        s = (if p.negate then "! " else "") ++ "|\n  ".intercalate cs := by
  unfold Pipeline.render at rendered
  by_cases agrees : p.pipeFail = pipeFail
  · simp only [agrees, bne_self_eq_false, Bool.false_eq_true, if_false] at rendered
    obtain ⟨cs, commandsRendered, rendered⟩ := bind_eq_ok.1 rendered
    exact ⟨agrees, cs, commandsRendered, (Except.ok.inj rendered).symm⟩
  · simp only [bne_iff_ne, ne_eq, agrees, not_false_eq_true, if_true] at rendered
    cases rendered

theorem Pipeline.render_lexes {p : Pipeline} (wf : p.WellFormed) {pipeFail : Bool} {s : String}
    (rendered : p.render pipeFail = .ok s) : Lexes s.toList p.kinds := by
  obtain ⟨-, cs, commandsRendered, rfl⟩ := Pipeline.render_eq_ok rendered
  have commands := forall₂_lexes_of_mapM commandsRendered
    fun c mem _ => SimpleCommand.render_lexes (wf.commands c mem)
  have stages :=
    Lexes.intercalate Joint.pipe commands (map_ne_nil_of_mapM commandsRendered wf.nonempty)
  have spelled : ("|\n  ".intercalate cs).toList =
      ['|', '\n', ' ', ' '].intercalate (cs.map String.toList) := by
    simp [String.toList_intercalate]
  cases negated : p.negate with
  | false => simpa [Pipeline.kinds, negated, spelled] using stages
  | true => simpa [Pipeline.kinds, negated, spelled, Lexes] using Leading.bang.append stages

/-- A rendered tree is read as its kinds, and all its pipelines agree with the script on
failing. -/
theorem CommandTree.render_lexes {pipeFail : Bool} {t : CommandTree}
    (wf : ∀ p ∈ t.pipelines, p.WellFormed) {s : String} (rendered : t.render pipeFail = .ok s) :
    Lexes s.toList t.kinds ∧ ∀ p ∈ t.pipelines, p.pipeFail = pipeFail := by
  induction t generalizing s with
  | pipeline p =>
    have wfp := wf p (by simp [CommandTree.pipelines])
    exact ⟨Pipeline.render_lexes wfp rendered,
      fun q mem => by
        obtain rfl : q = p := by simpa [CommandTree.pipelines] using mem
        exact (Pipeline.render_eq_ok rendered).1⟩
  | sequence left op right ihl ihr =>
    simp only [CommandTree.render] at rendered
    obtain ⟨l, leftRendered, rendered⟩ := bind_eq_ok.1 rendered
    obtain ⟨r, rightRendered, rendered⟩ := bind_eq_ok.1 rendered
    cases rendered
    obtain ⟨leftLexes, leftAgrees⟩ := ihl (fun p mem => wf p (by simp [mem])) leftRendered
    obtain ⟨rightLexes, rightAgrees⟩ := ihr (fun p mem => wf p (by simp [mem])) rightRendered
    refine ⟨?_, fun p mem => ?_⟩
    · have joined := leftLexes.join (Joint.sequence op) rightLexes
      simpa [String.toList_append, CommandTree.kinds] using joined
    · rcases List.mem_append.1 mem with inLeft | inRight
      · exact leftAgrees p inLeft
      · exact rightAgrees p inRight

end Pipework.Shell

/-! ### Pipelines built from `exec` words -/

namespace Pipework.Tcl

open Pipework.Shell

theorem execRedirects_fit : ∀ entry ∈ execRedirects, DescriptorFits entry.2.1 entry.2.2 := by
  simp [execRedirects, DescriptorFits, maxDescriptor]

theorem errorsToOutput_fits : DescriptorFits errorsToOutput.op errorsToOutput.fd := by
  simp [errorsToOutput, DescriptorFits, maxDescriptor]

theorem roleOf_row {word target : String} {op : RedirectOp} {fd : Option Nat}
    (role : roleOf word = .attached op fd target ∨ roleOf word = .detached op fd target) :
    ∃ pfx, (pfx, op, fd) ∈ execRedirects := by
  unfold roleOf at role
  split at role
  · simp at role
  · split at role
    · simp at role
    · next pfx op' fd' found =>
      obtain ⟨rfl, rfl⟩ : op' = op ∧ fd' = fd := by
        dsimp only at role
        split at role <;> simp_all
      exact ⟨pfx, List.mem_of_find?_eq_some found⟩

theorem roleOf_fits {word target : String} {op : RedirectOp} {fd : Option Nat}
    (role : roleOf word = .attached op fd target ∨ roleOf word = .detached op fd target) :
    DescriptorFits op fd := by
  obtain ⟨pfx, row⟩ := roleOf_row role
  exact execRedirects_fit _ row

/-- What building a pipeline keeps: the finished commands are well formed and the redirections
of the command under way fit. -/
structure Building (done : List SimpleCommand) (current : SimpleCommand) : Prop where
  finished : ∀ c ∈ done, c.WellFormed
  redirects : ∀ r ∈ current.redirects, DescriptorFits r.op r.fd

section Building

variable {done : List SimpleCommand} {current : SimpleCommand}

theorem Building.redirect (building : Building done current) {r : Redirect}
    (fits : DescriptorFits r.op r.fd) :
    Building done { current with redirects := current.redirects ++ [r] } where
  finished := building.finished
  redirects r' mem := by
    rcases List.mem_append.1 mem with old | new
    · exact building.redirects r' old
    · rw [List.mem_singleton.1 new]
      exact fits

theorem Building.argument (building : Building done current) (w : String) :
    Building done { current with args := current.args ++ [w] } :=
  ⟨building.finished, building.redirects⟩

theorem Building.close (building : Building done current) (program : current.args.isEmpty = false) :
    Building (done ++ [current]) { args := [] } where
  finished c mem := by
    rcases List.mem_append.1 mem with old | new
    · exact building.finished c old
    · rw [List.mem_singleton.1 new]
      exact ⟨by simpa using program, building.redirects⟩
  redirects r mem := by simp at mem

end Building

/-- Every pipeline built from `exec` words is well formed: each command has its program, and
each redirection comes from the table or from `|&` and `2>@1`, with a descriptor that fits. -/
theorem buildFrom_wellFormed {done : List SimpleCommand} {current : SimpleCommand}
    {words : List String} {p : Pipeline} (building : Building done current)
    (built : buildFrom done current words = .ok p) : p.WellFormed := by
  fun_induction buildFrom done current words
  case case2 done current program =>
    cases built
    have closed := building.close (by simpa using program)
    exact ⟨by simp, closed.finished⟩
  case case4 done current w rest _ program finished ih =>
    -- `|&` sends the errors of the finished command down the pipe too
    have closing : Building done finished := by
      simp only [finished]
      split
      · exact building.redirect errorsToOutput_fits
      · exact building
    have sameArgs : finished.args = current.args := by
      simp only [finished]
      split <;> rfl
    exact ih (closing.close (by simpa [sameArgs] using program)) built
  case case6 ih => exact ih (building.redirect errorsToOutput_fits) built
  case case8 w _ _ _ _ _ ih => exact ih (building.argument w) built
  case case9 role ih => exact ih (building.redirect (roleOf_fits (.inl role))) built
  case case11 role _ _ ih => exact ih (building.redirect (roleOf_fits (.inr role))) built
  -- the other words are refused
  case case1 | case3 | case5 | case7 | case10 => cases built

theorem buildPipeline_wellFormed {words : List String} {p : Pipeline}
    (built : buildPipeline words = .ok p) : p.WellFormed :=
  buildFrom_wellFormed ⟨by simp, by simp⟩ built

end Pipework.Tcl

/-! ### Reading rendered text back -/

namespace Pipework.Shell

/-- A well-formed tree that renders under a pipefail setting parses back to itself under that
setting, whichever escape rule the lexer follows. -/
theorem parse_render {t : CommandTree} (wf : t.WellFormed) {pipeFail : Bool} {text : String}
    (rendered : t.render pipeFail = .ok text) (win32 : Bool) :
    parse text pipeFail win32 = .ok t := by
  obtain ⟨lexes, agrees⟩ := CommandTree.render_lexes wf.pipelines rendered
  obtain ⟨ts, lexed, kinds⟩ := lexes.lex win32
  refine parse_eq_ok_iff.2 ⟨ts, lexed, ?_⟩
  rw [kinds]
  exact CommandTree.lineSyntax wf.leaning fun p mem => ⟨wf.pipelines p mem, agrees p mem⟩

theorem parse_wellFormed {line : String} {pipeFail win32 : Bool} {t : CommandTree}
    (parsed : parse line pipeFail win32 = .ok t) : t.WellFormed := by
  obtain ⟨ts, lexed, derived⟩ := parse_eq_ok_iff.1 parsed
  refine derived.wellFormed fun k mem => ?_
  obtain ⟨tok, mem', rfl⟩ := List.mem_map.1 mem
  exact lex_fits lexed tok mem'

/-- Rendering and parsing back is the identity on well-formed trees, and the trees the parser
returns and the pipelines built from `exec` words are well formed. -/
theorem render_parse_roundtrip :
    (∀ (t : CommandTree) (pipeFail win32 : Bool) (text : String), t.WellFormed →
      t.render pipeFail = .ok text → parse text pipeFail win32 = .ok t) ∧
    (∀ (line : String) (pipeFail win32 : Bool) (t : CommandTree),
      parse line pipeFail win32 = .ok t → t.WellFormed) ∧
    (∀ (words : List String) (p : Pipeline),
      Tcl.buildPipeline words = .ok p → (CommandTree.pipeline p).WellFormed) := by
  refine ⟨fun t pipeFail win32 text wf rendered => parse_render wf rendered win32,
    fun line pipeFail win32 t => parse_wellFormed, fun words p built => ?_⟩
  have wf := Tcl.buildPipeline_wellFormed built
  exact ⟨.pipeline p, by simpa [CommandTree.pipelines] using wf⟩

/-- Double quotes, a duplication onto a descriptor number, a quoted `!` and a quoted number
before a redirection with a descriptor: the text parses back to the tree. -/
theorem render_parse_roundtrip_quoting :
    (CommandTree.sequence
      (.pipeline ⟨[⟨["grep", "it's"], [⟨.dupOutput, some 2, "1"⟩]⟩, ⟨["wc"], []⟩],
        false, false⟩) .and
      (.pipeline ⟨[⟨["!", "2"], [⟨.output, some 1, "out file"⟩]⟩], false, true⟩)).WellFormed ∧
    (CommandTree.sequence
      (.pipeline ⟨[⟨["grep", "it's"], [⟨.dupOutput, some 2, "1"⟩]⟩, ⟨["wc"], []⟩],
        false, false⟩) .and
      (.pipeline ⟨[⟨["!", "2"], [⟨.output, some 1, "out file"⟩]⟩], false, true⟩)).render false =
      .ok "'grep' \"it's\" 2>&1|\n  'wc' &&\n! '!' '2' 1> 'out file'" ∧
    parse "'grep' \"it's\" 2>&1|\n  'wc' &&\n! '!' '2' 1> 'out file'" false = .ok
      (CommandTree.sequence
        (.pipeline ⟨[⟨["grep", "it's"], [⟨.dupOutput, some 2, "1"⟩]⟩, ⟨["wc"], []⟩],
          false, false⟩) .and
        (.pipeline ⟨[⟨["!", "2"], [⟨.output, some 1, "out file"⟩]⟩], false, true⟩)) := by
  have fits : ∀ (op : RedirectOp) (n : Nat), op ≠ .both → n ≤ maxDescriptor →
      DescriptorFits op (some n) := fun op n notBoth small =>
    ⟨fun both => absurd both notBoth, fun m same => Option.some.inj same ▸ small⟩
  refine ⟨?wf, ?rendered, render_parse_roundtrip.1 _ false false _ ?wf ?rendered⟩
  case rendered => cbv
  case wf =>
    refine ⟨.sequence .and _ (.pipeline _), fun p mem => ?_⟩
    simp only [CommandTree.pipelines, List.cons_append, List.nil_append, List.mem_cons,
      List.not_mem_nil, or_false] at mem
    rcases mem with rfl | rfl
    · refine ⟨by simp, fun c mem => ?_⟩
      simp only [List.mem_cons, List.not_mem_nil, or_false] at mem
      rcases mem with rfl | rfl
      · exact ⟨by simp, by simpa using fits .dupOutput 2 (by decide) (by decide)⟩
      · exact ⟨by simp, by simp⟩
    · refine ⟨by simp, fun c mem => ?_⟩
      simp only [List.mem_cons, List.not_mem_nil, or_false] at mem
      subst mem
      exact ⟨by simp, by simpa using fits .output 1 (by decide) (by decide)⟩

end Pipework.Shell
