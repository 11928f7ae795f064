import TurtleLogo.Proofs.Lines

/-!
# Scanning

A lexeme is a piece of the text that it starts, and it ends at the latest before a byte that can
continue none. So a text can be cut in front of such a byte without changing its tokens, and texts
that are joined with newlines have the tokens of the texts one after another.
-/

set_option autoImplicit false

namespace TurtleLogo

namespace Text

def isBreak (b : UInt8) : Bool :=
  !isNamePart b && b != 0x2E

theorem isBreak_newline : isBreak newline = true := by decide

section Break

variable {b : UInt8} (breaks : isBreak b = true)

include breaks

theorem not_isNamePart_of_isBreak : isNamePart b = false := by
  simp only [isBreak, Bool.and_eq_true, Bool.not_eq_true'] at breaks
  exact breaks.1

theorem not_isNameStart_of_isBreak : isNameStart b = false := by
  have noPart := not_isNamePart_of_isBreak breaks
  simp only [isNamePart, Bool.or_eq_false_iff] at noPart
  exact noPart.1

theorem not_isDigit_of_isBreak : isDigit b = false := by
  have noPart := not_isNamePart_of_isBreak breaks
  simp only [isNamePart, Bool.or_eq_false_iff] at noPart
  exact noPart.2

theorem ne_point_of_isBreak : b ≠ 0x2E := by
  simp only [isBreak, Bool.and_eq_true, bne_iff_ne] at breaks
  exact breaks.2

end Break

theorem takeWhile_append_stop {p : UInt8 → Bool} {b : UInt8} (stops : p b = false) (s t : Text) :
    (s ++ b :: t).takeWhile p = s.takeWhile p := by
  induction s with
  | nil => simp [stops]
  | cons a s ih => cases first : p a <;> simp [first, ih]

theorem notMem_takeWhile {p : UInt8 → Bool} {b : UInt8} (stops : p b = false) (s : Text) :
    b ∉ s.takeWhile p := by
  induction s with
  | nil => simp
  | cons a s ih =>
    cases first : p a with
    | false => simp [first]
    | true =>
      have other : b ≠ a := fun same => by simp [same, first] at stops
      simp [first, other, ih]

theorem dropWhile_append_stop {p : UInt8 → Bool} {b : UInt8} (stops : p b = false) (s t : Text) :
    (s ++ b :: t).dropWhile p = s.dropWhile p ++ b :: t := by
  induction s with
  | nil => simp [stops]
  | cons a s ih => cases first : p a <;> simp [first, ih]

end Text

namespace Token

open Text

/-! ## Lexemes -/

theorem fraction_starts_text (src : Text) : fraction src <+: src := by
  unfold fraction
  split
  · split
    · refine (List.prefix_cons_inj _).mpr ?_
      exact List.takeWhile_prefix _
    · exact List.nil_prefix
  · exact List.nil_prefix

theorem newline_notMem_fraction (src : Text) : newline ∉ fraction src := by
  unfold fraction
  split
  · split
    · have digits := notMem_takeWhile (p := isDigit) (b := newline) rfl
      simp only [List.mem_cons, not_or]
      exact ⟨by decide, digits _⟩
    · simp
  · simp

theorem fraction_of_ne_point {b : UInt8} (other : b ≠ 0x2E) (rest : Text) :
    fraction (b :: rest) = [] := by
  unfold fraction
  split
  · rename_i same
    exact absurd (List.cons.inj same).1 other
  · rfl

theorem fraction_append_break {b : UInt8} (breaks : isBreak b = true) (s t : Text) :
    fraction (s ++ b :: t) = fraction s := by
  cases s with
  | nil => exact fraction_of_ne_point (ne_point_of_isBreak breaks) t
  | cons a rest =>
    by_cases point : a = 0x2E
    · subst point
      have noDigit := not_isDigit_of_isBreak breaks
      cases rest with
      | nil => simp [fraction, noDigit]
      | cons c tail =>
        have digits := takeWhile_append_stop noDigit (c :: tail) t
        rw [List.cons_append] at digits
        simp only [fraction, List.cons_append, digits]
    · rw [List.cons_append, fraction_of_ne_point point, fraction_of_ne_point point]

/-- `Lexeme src kind text`: the text `src` starts with the lexeme `text` of the given kind. -/
inductive Lexeme : Text → Kind → Text → Prop
  | opening (rest : Text) : Lexeme (0x5B :: rest) .opening [0x5B]
  | closing (rest : Text) : Lexeme (0x5D :: rest) .closing [0x5D]
  | number {b : UInt8} (digit : isDigit b = true) (rest : Text) :
      Lexeme (b :: rest) .number
        (b :: (rest.takeWhile isDigit ++ fraction (rest.dropWhile isDigit)))
  | word {b : UInt8} (starts : isNameStart b = true) (rest : Text) :
      Lexeme (b :: rest) .word (b :: rest.takeWhile isNamePart)
  | quote {b : UInt8} (starts : isNameStart b = true) (rest : Text) :
      Lexeme (0x22 :: b :: rest) .quoted (0x22 :: b :: rest.takeWhile isNamePart)
  | colon {b : UInt8} (starts : isNameStart b = true) (rest : Text) :
      Lexeme (0x3A :: b :: rest) .variable (0x3A :: b :: rest.takeWhile isNamePart)

theorem lexeme_of_lexeme? {src text : Text} {kind : Kind}
    (found : lexeme? src = some (kind, text)) : Lexeme src kind text := by
  cases src with
  | nil => cases found
  | cons b rest =>
    rw [lexeme?.eq_def] at found
    dsimp only at found
    by_cases opens : b = 0x5B
    · subst opens
      cases found
      exact .opening rest
    · rw [if_neg (by simpa using opens)] at found
      by_cases closes : b = 0x5D
      · subst closes
        cases found
        exact .closing rest
      · rw [if_neg (by simpa using closes)] at found
        by_cases digit : isDigit b
        · rw [if_pos digit] at found
          cases found
          exact .number digit rest
        · rw [if_neg digit] at found
          by_cases starts : isNameStart b
          · rw [if_pos starts] at found
            cases found
            exact .word starts rest
          · rw [if_neg starts] at found
            cases rest with
            | nil => simp at found
            | cons c tail =>
              by_cases named : isNameStart c
              · simp only [named, if_true] at found
                split at found
                · rename_i sigil
                  simp only [Bool.or_eq_true, beq_iff_eq] at sigil
                  rcases sigil with rfl | rfl
                  · cases found
                    exact .quote named tail
                  · cases found
                    exact .colon named tail
                · cases found
              · simp [named] at found

theorem Lexeme.starts_text {src text : Text} {kind : Kind} (lexeme : Lexeme src kind text) :
    text <+: src := by
  cases lexeme with
  | opening rest => exact (List.prefix_cons_inj _).mpr List.nil_prefix
  | closing rest => exact (List.prefix_cons_inj _).mpr List.nil_prefix
  | number digit rest =>
    refine (List.prefix_cons_inj _).mpr ?_
    obtain ⟨behind, parts⟩ := fraction_starts_text (rest.dropWhile isDigit)
    refine ⟨behind, ?_⟩
    rw [List.append_assoc, parts, List.takeWhile_append_dropWhile]
  | word starts rest =>
    refine (List.prefix_cons_inj _).mpr ?_
    exact List.takeWhile_prefix _
  | quote starts rest | colon starts rest =>
    refine (List.prefix_cons_inj _).mpr ((List.prefix_cons_inj _).mpr ?_)
    exact List.takeWhile_prefix _

theorem Lexeme.newline_notMem {src text : Text} {kind : Kind} (lexeme : Lexeme src kind text) :
    newline ∉ text := by
  have digits := notMem_takeWhile (p := isDigit) (b := newline) rfl
  have names := notMem_takeWhile (p := isNamePart) (b := newline) rfl
  have other : ∀ {p : UInt8 → Bool} {b : UInt8}, p newline = false → p b = true → newline ≠ b := by
    intro p b refused accepted same
    rw [same, accepted] at refused
    cases refused
  cases lexeme with
  | opening rest => decide
  | closing rest => decide
  | number digit rest =>
    simp only [List.mem_cons, List.mem_append, not_or]
    exact ⟨other (p := isDigit) rfl digit, digits rest, newline_notMem_fraction _⟩
  | word starts rest =>
    simp only [List.mem_cons, not_or]
    exact ⟨other (p := isNameStart) rfl starts, names rest⟩
  | quote starts rest | colon starts rest =>
    simp only [List.mem_cons, not_or]
    exact ⟨by decide, other (p := isNameStart) rfl starts, names rest⟩

theorem Lexeme.two_le_length {src text : Text} (lexeme : Lexeme src .variable text) :
    2 ≤ text.length := by
  cases lexeme with
  | colon starts rest =>
    simp only [List.length_cons]
    omega

theorem lexeme?_append_break {b : UInt8} (breaks : isBreak b = true) (a : UInt8) (s t : Text) :
    lexeme? (a :: s ++ b :: t) = lexeme? (a :: s) := by
  have noDigit := not_isDigit_of_isBreak breaks
  have noPart := not_isNamePart_of_isBreak breaks
  have noStart := not_isNameStart_of_isBreak breaks
  rw [List.cons_append]
  rw [lexeme?.eq_def, lexeme?.eq_def]
  dsimp only
  rw [takeWhile_append_stop noDigit, dropWhile_append_stop noDigit, fraction_append_break breaks,
    takeWhile_append_stop noPart]
  cases s with
  | nil => simp [noStart]
  | cons c tail =>
    simp only [List.cons_append, takeWhile_append_stop noPart]

/-! ## Tokens -/

section Equations

variable {b : UInt8} {rest : Text} (line : Int)

theorem scanFrom_of_lexeme {kind : Kind} {text : Text}
    (found : lexeme? (b :: rest) = some (kind, text)) :
    scanFrom line (b :: rest) =
      ⟨kind, text, line⟩ :: scanFrom line ((b :: rest).drop text.length) := by
  rw [scanFrom]
  split
  · rename_i kind' text' found'
    rw [found] at found'
    cases found'
    rfl
  · rename_i skipped
    rw [found] at skipped
    cases skipped

theorem scanFrom_of_skip (skipped : lexeme? (b :: rest) = none) :
    scanFrom line (b :: rest) = scanFrom (if b = newline then line + 1 else line) rest := by
  rw [scanFrom]
  split
  · rename_i kind text found
    rw [skipped] at found
    cases found
  · rfl

end Equations

theorem line_behind_skip (line : Int) (b : UInt8) (rest : Text) :
    (if b = newline then line + 1 else line) + (rest.count newline : Int) =
      line + (b :: rest).count newline := by
  by_cases here : b = newline
  · rw [if_pos here, here, List.count_cons_self]
    omega
  · rw [if_neg here, List.count_cons_of_ne here]

/-- Cutting a text in front of a break does not change its tokens. -/
theorem scanFrom_append_break {b : UInt8} (breaks : isBreak b = true) (line : Int) (s t : Text) :
    scanFrom line (s ++ b :: t) =
      scanFrom line s ++ scanFrom (line + s.count newline) (b :: t) := by
  induction line, s using scanFrom.induct with
  | case1 line => simp [scanFrom]
  | case2 line a rest kind text found ih =>
    have lexeme := lexeme_of_lexeme? found
    have starts := lexeme.starts_text
    have lines : ((a :: rest).drop text.length).count newline = (a :: rest).count newline := by
      obtain ⟨behind, parts⟩ := starts
      rw [← parts, List.drop_left, List.count_append,
        List.count_eq_zero_of_not_mem lexeme.newline_notMem, Nat.zero_add]
    have found' := lexeme?_append_break breaks a rest t
    rw [found, List.cons_append] at found'
    rw [List.cons_append, scanFrom_of_lexeme line found', scanFrom_of_lexeme line found,
      ← List.cons_append, List.drop_append_of_le_length starts.length_le, ih, lines]
    rfl
  | case3 line a rest skipped ih =>
    have skipped' := lexeme?_append_break breaks a rest t
    rw [skipped, List.cons_append] at skipped'
    simp only [dite_eq_ite] at ih
    rw [List.cons_append, scanFrom_of_skip line skipped', scanFrom_of_skip line skipped, ih,
      line_behind_skip]

theorem scanFrom_newline (line : Int) (src : Text) :
    scanFrom line (newline :: src) = scanFrom (line + 1) src := by
  rw [scanFrom_of_skip line (by rfl), if_pos rfl]

/-- Which tokens a text has does not depend on the line it starts on, apart from their lines. -/
theorem unlined_scanFrom (line line' : Int) (src : Text) :
    Program.unlined (scanFrom line src) = Program.unlined (scanFrom line' src) := by
  induction line, src using scanFrom.induct generalizing line' with
  | case1 line => simp [scanFrom]
  | case2 line b rest kind text found ih =>
    rw [scanFrom_of_lexeme line found, scanFrom_of_lexeme line' found, Program.unlined_cons,
      Program.unlined_cons, ih line']
    rfl
  | case3 line b rest skipped ih =>
    rw [scanFrom_of_skip line skipped, scanFrom_of_skip line' skipped]
    exact ih _

theorem two_le_length_of_variable {line : Int} {src : Text} {t : Token}
    (member : t ∈ scanFrom line src) (kind : t.kind = .variable) : 2 ≤ t.text.length := by
  induction line, src using scanFrom.induct with
  | case1 line => simp [scanFrom] at member
  | case2 line b rest kind' text found ih =>
    rw [scanFrom_of_lexeme line found] at member
    rcases List.mem_cons.mp member with rfl | later
    · simp only at kind
      subst kind
      exact (lexeme_of_lexeme? found).two_le_length
    · exact ih later
  | case3 line b rest skipped ih =>
    rw [scanFrom_of_skip line skipped] at member
    exact ih member

theorem line_of_mem_scanFrom {line : Int} {src : Text} {t : Token}
    (member : t ∈ scanFrom line src) : line ≤ t.line ∧ t.line ≤ line + src.count newline := by
  induction line, src using scanFrom.induct with
  | case1 line => simp [scanFrom] at member
  | case2 line b rest kind text found ih =>
    rw [scanFrom_of_lexeme line found] at member
    rcases List.mem_cons.mp member with rfl | later
    · simp only
      omega
    · have fewer := (List.drop_sublist text.length (b :: rest)).count_le newline
      obtain ⟨least, greatest⟩ := ih later
      omega
  | case3 line b rest skipped ih =>
    rw [scanFrom_of_skip line skipped] at member
    simp only [dite_eq_ite] at ih
    obtain ⟨least, greatest⟩ := ih member
    rw [line_behind_skip] at greatest
    refine ⟨?_, greatest⟩
    split at least <;> omega

end Token

end TurtleLogo
