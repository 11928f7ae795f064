import TurtleLogo.Proofs.Scanning

/-!
# Spellings and renderings

Each kind of token has its own spellings: a bracket is itself, a number is digits with or without a
fraction, and a name may stand alone, behind a quote or behind a colon. A token list is well-formed
when every text is a spelling of its kind and the lines never go back. Scanning gives such lists and
no others. `render` prints one so that scanning it again gives back every token on its line.
-/

set_option autoImplicit false

namespace TurtleLogo

namespace Text

def space : UInt8 := 0x20

theorem isBreak_space : isBreak space = true := by decide

inductive IsName : Text → Prop
  | intro {b : UInt8} {rest : Text} (starts : isNameStart b = true)
      (continues : ∀ c ∈ rest, isNamePart c = true) : IsName (b :: rest)

inductive IsDigits : Text → Prop
  | intro {b : UInt8} {rest : Text} (first : isDigit b = true)
      (others : ∀ c ∈ rest, isDigit c = true) : IsDigits (b :: rest)

/-- A run of bytes of one sort ends in front of a byte of another sort, or with the text. -/
theorem takeWhile_append_of_stops {p : UInt8 → Bool} {s behind : Text}
    (inside : ∀ b ∈ s, p b = true) (stops : ∀ b ∈ behind.head?, p b = false) :
    (s ++ behind).takeWhile p = s := by
  have whole := List.takeWhile_eq_self_iff.mpr inside
  cases behind with
  | nil => rw [List.append_nil, whole]
  | cons b rest => rw [takeWhile_append_stop (stops b rfl), whole]

theorem dropWhile_append_of_stops {p : UInt8 → Bool} {s behind : Text}
    (inside : ∀ b ∈ s, p b = true) (stops : ∀ b ∈ behind.head?, p b = false) :
    (s ++ behind).dropWhile p = behind := by
  have dropped := List.dropWhile_eq_nil_iff.mpr inside
  cases behind with
  | nil => rw [List.append_nil, dropped]
  | cons b rest => rw [dropWhile_append_stop (stops b rfl), dropped, List.nil_append]

theorem not_isDigit_of_isNameStart {b : UInt8} (starts : isNameStart b = true) :
    isDigit b = false := by
  grind [isNameStart, isLower, isUpper, isDigit]

end Text

namespace Token

open Text

inductive Spelled : Kind → Text → Prop
  | opening : Spelled .opening [0x5B]
  | closing : Spelled .closing [0x5D]
  | whole {digits : Text} (number : IsDigits digits) : Spelled .number digits
  | fractional {digits decimals : Text} (number : IsDigits digits) (behind : IsDigits decimals) :
      Spelled .number (digits ++ 0x2E :: decimals)
  | word {name : Text} (named : IsName name) : Spelled .word name
  | quote {name : Text} (named : IsName name) : Spelled .quoted (0x22 :: name)
  | colon {name : Text} (named : IsName name) : Spelled .variable (0x3A :: name)

/-! ## Lexemes are spellings -/

theorem fraction_cases (src : Text) :
    fraction src = [] ∨ ∃ rest, src = 0x2E :: rest ∧ IsDigits (rest.takeWhile isDigit) ∧
      fraction src = 0x2E :: rest.takeWhile isDigit := by
  unfold fraction
  split
  · rename_i b rest
    split
    · rename_i digit
      have digits : IsDigits ((b :: rest).takeWhile isDigit) := by
        rw [List.takeWhile_cons, if_pos digit]
        exact .intro digit (fun _ => List.mem_takeWhile_imp)
      exact .inr ⟨b :: rest, rfl, digits, rfl⟩
    · exact .inl rfl
  · exact .inl rfl

theorem fraction_point {decimals behind : Text} (digits : IsDigits decimals)
    (stops : ∀ b ∈ behind.head?, isDigit b = false) :
    fraction (0x2E :: (decimals ++ behind)) = 0x2E :: decimals := by
  cases digits with
  | @intro b rest first others =>
    have inside : ∀ c ∈ b :: rest, isDigit c = true := List.forall_mem_cons.mpr ⟨first, others⟩
    have run := takeWhile_append_of_stops inside stops
    rw [List.cons_append] at run ⊢
    rw [fraction, if_pos first, run]

theorem fraction_eq_nil_iff (src : Text) :
    fraction src = [] ↔ ∀ b rest, src = 0x2E :: b :: rest → isDigit b = false := by
  unfold fraction
  split
  · rename_i b rest
    constructor
    · intro empty c tail same
      cases same
      by_contra digit
      rw [if_pos (by simpa using digit)] at empty
      cases empty
    · intro noDigit
      rw [if_neg (by simp [noDigit b rest rfl])]
  · rename_i other
    constructor
    · intro _ b rest same
      exact absurd same (other b rest)
    · intro _
      rfl

theorem Lexeme.spelled {src text : Text} {kind : Kind} (lexeme : Lexeme src kind text) :
    Spelled kind text := by
  cases lexeme with
  | opening rest => exact .opening
  | closing rest => exact .closing
  | @number b digit rest =>
    have digits : IsDigits (b :: rest.takeWhile isDigit) :=
      .intro digit (fun _ => List.mem_takeWhile_imp)
    rcases fraction_cases (rest.dropWhile isDigit) with whole | ⟨_, _, behind, fractional⟩
    · rw [whole, List.append_nil]
      exact .whole digits
    · rw [fractional]
      exact .fractional digits behind
  | word starts rest => exact .word (.intro starts fun _ => List.mem_takeWhile_imp)
  | quote starts rest => exact .quote (.intro starts fun _ => List.mem_takeWhile_imp)
  | colon starts rest => exact .colon (.intro starts fun _ => List.mem_takeWhile_imp)

/-- A token of this kind and text may end in front of `behind`, since no byte there continues it. -/
structure EndsBefore (kind : Kind) (text behind : Text) : Prop where
  name : kind = .word ∨ kind = .quoted ∨ kind = .variable →
    ∀ b ∈ behind.head?, isNamePart b = false
  number : kind = .number → ∀ b ∈ behind.head?, isDigit b = false
  whole : kind = .number → 0x2E ∉ text → ∀ b rest, behind = 0x2E :: b :: rest → isDigit b = false

theorem endsBefore_nil (kind : Kind) (text : Text) : EndsBefore kind text [] := by
  constructor <;> simp

theorem endsBefore_break {b : UInt8} (breaks : isBreak b = true) (kind : Kind) (text behind : Text) :
    EndsBefore kind text (b :: behind) := by
  refine ⟨?_, ?_, ?_⟩
  · rintro _ _ ⟨⟩
    exact not_isNamePart_of_isBreak breaks
  · rintro _ _ ⟨⟩
    exact not_isDigit_of_isBreak breaks
  · intro _ _ c rest point
    exact absurd (List.cons.inj point).1 (ne_point_of_isBreak breaks)

/-- A spelling that may end where it does is a lexeme of the text it starts. -/
theorem Spelled.lexeme_append {kind : Kind} {text behind : Text} (spelled : Spelled kind text)
    (ends : EndsBefore kind text behind) : Lexeme (text ++ behind) kind text := by
  cases spelled with
  | opening => exact .opening behind
  | closing => exact .closing behind
  | whole number =>
    cases number with
    | @intro b rest first others =>
      have stops := ends.number rfl
      have digits : ∀ c ∈ b :: rest, isDigit c = true := List.forall_mem_cons.mpr ⟨first, others⟩
      have noPoint : 0x2E ∉ b :: rest := by
        intro point
        cases digits _ point
      have lexeme := Lexeme.number first (rest ++ behind)
      rwa [takeWhile_append_of_stops others stops, dropWhile_append_of_stops others stops,
        (fraction_eq_nil_iff behind).mpr (ends.whole rfl noPoint), List.append_nil] at lexeme
  | @fractional _ decimals number behindPoint =>
    cases number with
    | @intro b rest first others =>
      have lexeme := Lexeme.number first (rest ++ 0x2E :: (decimals ++ behind))
      rw [takeWhile_append_of_stops others (by simp; decide),
        dropWhile_append_of_stops others (by simp; decide),
        fraction_point behindPoint (ends.number rfl)] at lexeme
      rwa [List.append_assoc, List.cons_append]
  | word named =>
    cases named with
    | @intro b rest starts continues =>
      have lexeme := Lexeme.word starts (rest ++ behind)
      rwa [takeWhile_append_of_stops continues (ends.name (.inl rfl))] at lexeme
  | quote named =>
    cases named with
    | @intro b rest starts continues =>
      have lexeme := Lexeme.quote starts (rest ++ behind)
      rwa [takeWhile_append_of_stops continues (ends.name (.inr (.inl rfl)))] at lexeme
  | colon named =>
    cases named with
    | @intro b rest starts continues =>
      have lexeme := Lexeme.colon starts (rest ++ behind)
      rwa [takeWhile_append_of_stops continues (ends.name (.inr (.inr rfl)))] at lexeme

theorem Spelled.lexeme {kind : Kind} {text : Text} (spelled : Spelled kind text) :
    Lexeme text kind text := by
  have lexeme := spelled.lexeme_append (endsBefore_nil kind text)
  rwa [List.append_nil] at lexeme

theorem lexeme?_of_lexeme {src text : Text} {kind : Kind} (lexeme : Lexeme src kind text) :
    lexeme? src = some (kind, text) := by
  cases lexeme with
  | opening rest => rfl
  | closing rest => rfl
  | @number b digit rest =>
    have opens : b ≠ 0x5B := by rintro rfl; cases digit
    have closes : b ≠ 0x5D := by rintro rfl; cases digit
    rw [lexeme?.eq_def]
    simp [opens, closes, digit]
  | @word b starts rest =>
    have opens : b ≠ 0x5B := by rintro rfl; cases starts
    have closes : b ≠ 0x5D := by rintro rfl; cases starts
    rw [lexeme?.eq_def]
    simp [opens, closes, not_isDigit_of_isNameStart starts, starts]
  | quote starts rest | colon starts rest =>
    rw [lexeme?.eq_def]
    simp only [starts]
    rfl

/-! ## Well-formed token lists -/

/-- Every token is spelled as its kind demands, and the lines, of which the first is at least
`line`, never go back. -/
structure WellFormed (line : Int) (p : Program) : Prop where
  lines : (line :: p.map Token.line).IsChain (· ≤ ·)
  spelled : ∀ t ∈ p, Spelled t.kind t.text

theorem WellFormed.mono {line line' : Int} {p : Program} (formed : WellFormed line' p)
    (earlier : line ≤ line') : WellFormed line p := by
  refine ⟨?_, formed.spelled⟩
  have lines := formed.lines
  cases p with
  | nil => simp
  | cons t rest =>
    simp only [List.map_cons, List.isChain_cons_cons] at lines ⊢
    exact ⟨earlier.trans lines.1, lines.2⟩

theorem wellFormed_nil (line : Int) : WellFormed line [] :=
  ⟨by simp, by simp⟩

theorem wellFormed_cons {line : Int} {t : Token} {rest : Program} :
    WellFormed line (t :: rest) ↔
      line ≤ t.line ∧ Spelled t.kind t.text ∧ WellFormed t.line rest := by
  constructor
  · rintro ⟨lines, spelled⟩
    simp only [List.map_cons, List.isChain_cons_cons] at lines
    rw [List.forall_mem_cons] at spelled
    exact ⟨lines.1, spelled.1, lines.2, spelled.2⟩
  · rintro ⟨later, here, lines, spelled⟩
    refine ⟨?_, List.forall_mem_cons.mpr ⟨here, spelled⟩⟩
    simp only [List.map_cons, List.isChain_cons_cons]
    exact ⟨later, lines⟩

theorem wellFormed_scanFrom (line : Int) (src : Text) : WellFormed line (scanFrom line src) := by
  induction line, src using scanFrom.induct with
  | case1 line =>
    rw [scanFrom]
    exact wellFormed_nil line
  | case2 line b rest kind text found ih =>
    rw [scanFrom_of_lexeme line found, wellFormed_cons]
    exact ⟨le_refl line, (lexeme_of_lexeme? found).spelled, ih⟩
  | case3 line b rest skipped ih =>
    rw [scanFrom_of_skip line skipped]
    refine ih.mono ?_
    split <;> omega

/-! ## Rendering -/

/-- Each token of a list behind `line`, with the newlines that lead to its own line. -/
def lined (line : Int) : Program → List Text
  | [] => []
  | t :: rest => (List.replicate (t.line - line).toNat newline ++ t.text) :: lined t.line rest

def render (p : Program) : Text :=
  Text.join [space] (lined 1 p)

theorem scanFrom_space (line : Int) (src : Text) :
    scanFrom line (space :: src) = scanFrom line src := by
  rw [scanFrom_of_skip line (by rfl), if_neg (by decide)]

theorem scanFrom_newlines (line : Int) (k : Nat) (src : Text) :
    scanFrom line (List.replicate k newline ++ src) = scanFrom (line + k) src := by
  induction k generalizing line with
  | zero => simp
  | succ k ih =>
    rw [List.replicate_succ, List.cons_append, scanFrom_newline, ih]
    congr 1
    push_cast
    ring

/-- A spelling that may end where it does is the first token, and changes no line. -/
theorem scanFrom_spelled {kind : Kind} {text behind : Text} (spelled : Spelled kind text)
    (ends : EndsBefore kind text behind) (line : Int) :
    scanFrom line (text ++ behind) = ⟨kind, text, line⟩ :: scanFrom line behind := by
  have found := lexeme?_of_lexeme (spelled.lexeme_append ends)
  cases shape : text ++ behind with
  | nil =>
    rw [shape] at found
    cases found
  | cons b rest =>
    rw [shape] at found
    rw [scanFrom_of_lexeme line found, ← shape, List.drop_left]

theorem scanFrom_lined {line : Int} {p : Program} (formed : WellFormed line p) :
    scanFrom line (Text.join [space] (lined line p)) = p := by
  induction p generalizing line with
  | nil => rw [lined, Text.join, scanFrom]
  | cons t rest ih =>
    obtain ⟨later, spelled, behind⟩ := wellFormed_cons.mp formed
    have here : line + ((t.line - line).toNat : Int) = t.line := by omega
    cases rest with
    | nil =>
      have single := scanFrom_spelled spelled (endsBefore_nil t.kind t.text) t.line
      rw [List.append_nil] at single
      rw [lined, lined, Text.join, scanFrom_newlines, here, single, scanFrom]
    | cons next rest =>
      have again := ih behind
      rw [lined] at again ⊢
      rw [lined, Text.join, List.append_assoc, List.append_assoc, scanFrom_newlines, here,
        List.singleton_append,
        scanFrom_spelled spelled (endsBefore_break isBreak_space t.kind t.text _), scanFrom_space,
        again]
      simp

def onFirstLine (p : Program) : Program :=
  p.map fun t => { t with line := 1 }

theorem unlined_onFirstLine (p : Program) :
    Program.unlined (onFirstLine p) = Program.unlined p := by
  simp [Program.unlined, onFirstLine, Token.unlined]

theorem wellFormed_onFirstLine {line : Int} {p : Program} (formed : WellFormed line p) :
    WellFormed 1 (onFirstLine p) := by
  induction p generalizing line with
  | nil => exact wellFormed_nil 1
  | cons t rest ih =>
    obtain ⟨_, spelled, behind⟩ := wellFormed_cons.mp formed
    exact wellFormed_cons.mpr ⟨le_refl 1, spelled, ih behind⟩

theorem lined_onFirstLine (p : Program) : lined 1 (onFirstLine p) = p.map Token.text := by
  induction p with
  | nil => rfl
  | cons t rest ih =>
    change ([] ++ t.text) :: lined 1 (onFirstLine rest) = t.text :: rest.map Token.text
    rw [ih, List.nil_append]

/-- The token lists that scanning gives are exactly those that are well-formed from the first line
on, and scanning undoes rendering: it gives back every token of such a list, with its line. So the
tokens of a text, joined with spaces, scan to the same kinds and texts. -/
theorem scan_gives_wellFormed_and_undoes_render :
    Set.range scan = {p | WellFormed 1 p} ∧
      (∀ p : Program, WellFormed 1 p → scan (render p) = p) ∧
      ∀ src : Text,
        Program.unlined (scan (Text.join [space] ((scan src).map Token.text))) =
          Program.unlined (scan src) := by
  have undoes : ∀ p : Program, WellFormed 1 p → scan (render p) = p :=
    fun _ formed => scanFrom_lined formed
  have formed : ∀ src : Text, WellFormed 1 (scan src) := wellFormed_scanFrom 1
  refine ⟨?_, undoes, ?_⟩
  · ext p
    constructor
    · rintro ⟨src, rfl⟩
      exact formed src
    · intro formed
      exact ⟨render p, undoes p formed⟩
  · intro src
    have joined := undoes _ (wellFormed_onFirstLine (formed src))
    rw [render, lined_onFirstLine] at joined
    rw [joined, unlined_onFirstLine]

/-- Numbers, names and brackets that touch nothing but spaces and newlines. -/
theorem scan_gives_wellFormed_and_undoes_render_spread :
    let p : Program := [⟨.word, utf8 "FD", 2⟩, ⟨.number, utf8 "1.5", 2⟩, ⟨.opening, utf8 "[", 4⟩,
      ⟨.variable, utf8 ":a_1", 4⟩, ⟨.quoted, utf8 "\"b", 4⟩, ⟨.closing, utf8 "]", 7⟩]
    WellFormed 1 p ∧ scan (render p) = p := by
  intro p
  have formed : WellFormed 1 p := by
    have scanned := wellFormed_scanFrom 1 (utf8 "\nFD 1.5\n\n[:a_1\"b\n\n\n]")
    rwa [show scanFrom 1 (utf8 "\nFD 1.5\n\n[:a_1\"b\n\n\n]") = p by decide +kernel] at scanned
  exact ⟨formed, scan_gives_wellFormed_and_undoes_render.2.1 p formed⟩

end Token

end TurtleLogo
