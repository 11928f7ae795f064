import TurtleLogo.Proofs.Spelling

/-!
# Readings of a text

A text is cut into tokens and the gaps between them. Many such divisions have properly spelled
tokens; in a maximal one no byte behind a token continues it, and nothing in the gaps belongs to a
token. Scanning gives the tokens of every maximal division, each on the line where it stands.

A text that ends with a newline is scanned apart from what follows it: joining two texts with a
newline joins their tokens, and moves the second ones by the lines of the first text.
-/

set_option autoImplicit false

namespace TurtleLogo

namespace Token

open Text

/-- Whether a byte can stand between tokens: it is no bracket and no part of a name or a number. -/
def isFiller (b : UInt8) : Bool :=
  !isNamePart b && b != 0x5B && b != 0x5D

def isSigil (b : UInt8) : Bool :=
  b == 0x22 || b == 0x3A

/-! ## Where lexemes start and end -/

theorem not_isNameStart_of_isFiller {b : UInt8} (filler : isFiller b = true) :
    isNameStart b = false := by
  simp only [isFiller, isNamePart, Bool.and_eq_true, Bool.not_eq_true', Bool.or_eq_false_iff]
    at filler
  exact filler.1.1.1

/-- No lexeme starts at a byte exactly if it is a filler, and no sigil in front of a name. -/
theorem lexeme?_eq_none_iff (b : UInt8) (rest : Text) :
    lexeme? (b :: rest) = none ↔
      isFiller b = true ∧ (isSigil b = true → ∀ c ∈ rest.head?, isNameStart c = false) := by
  constructor
  · intro skipped
    have noLexeme : ∀ kind text, ¬Lexeme (b :: rest) kind text := by
      intro kind text lexeme
      rw [lexeme?_of_lexeme lexeme] at skipped
      cases skipped
    have noName : isNameStart b = false := by
      by_contra starts
      exact noLexeme _ _ (.word (by simpa using starts) rest)
    have noDigit : isDigit b = false := by
      by_contra digit
      exact noLexeme _ _ (.number (by simpa using digit) rest)
    have noOpening : b ≠ 0x5B := by
      rintro rfl
      exact noLexeme _ _ (.opening rest)
    have noClosing : b ≠ 0x5D := by
      rintro rfl
      exact noLexeme _ _ (.closing rest)
    refine ⟨by simp [isFiller, isNamePart, noName, noDigit, noOpening, noClosing], ?_⟩
    intro sigil c first
    cases rest with
    | nil => cases first
    | cons d tail =>
      cases first
      by_contra starts
      have named : isNameStart c = true := by simpa using starts
      simp only [isSigil, Bool.or_eq_true, beq_iff_eq] at sigil
      rcases sigil with rfl | rfl
      · exact noLexeme _ _ (.quote named tail)
      · exact noLexeme _ _ (.colon named tail)
  · rintro ⟨filler, apart⟩
    cases found : lexeme? (b :: rest) with
    | none => rfl
    | some lexeme =>
      obtain ⟨kind, text⟩ := lexeme
      have noName := not_isNameStart_of_isFiller filler
      cases lexeme_of_lexeme? found with
      | opening | closing => cases filler
      | number digit => simp [isFiller, isNamePart, digit] at filler
      | word starts =>
        rw [noName] at starts
        cases starts
      | quote starts tail | colon starts tail =>
        have stops := apart rfl _ rfl
        rw [starts] at stops
        cases stops

theorem stops_behind_takeWhile {p : UInt8 → Bool} {rest behind : Text}
    (split : rest.takeWhile p ++ behind = rest) : ∀ b ∈ behind.head?, p b = false := by
  intro b first
  have same : behind = rest.dropWhile p := by
    apply List.append_cancel_left
    rw [split, List.takeWhile_append_dropWhile]
  have stops := List.head?_dropWhile_not p rest
  rw [← same, first] at stops
  simpa using stops

theorem Lexeme.endsBefore {src text behind : Text} {kind : Kind} (lexeme : Lexeme src kind text)
    (shape : text ++ behind = src) : EndsBefore kind text behind := by
  cases lexeme with
  | opening | closing => constructor <;> simp
  | word starts rest =>
    have stops := stops_behind_takeWhile (List.cons.inj shape).2
    exact ⟨fun _ => stops, by simp, by simp⟩
  | quote starts rest | colon starts rest =>
    have stops := stops_behind_takeWhile (List.cons.inj (List.cons.inj shape).2).2
    exact ⟨fun _ => stops, by simp, by simp⟩
  | @number b digit rest =>
    have split : rest.takeWhile isDigit ++ (fraction (rest.dropWhile isDigit) ++ behind) = rest := by
      rw [← List.append_assoc]
      exact (List.cons.inj shape).2
    have tail : fraction (rest.dropWhile isDigit) ++ behind = rest.dropWhile isDigit := by
      apply List.append_cancel_left
      rw [split, List.takeWhile_append_dropWhile]
    rcases fraction_cases (rest.dropWhile isDigit) with whole | ⟨decimals, point, _, fractional⟩
    · rw [whole, List.nil_append] at tail split
      refine ⟨by simp, fun _ => stops_behind_takeWhile split, fun _ _ => ?_⟩
      rw [tail]
      exact (fraction_eq_nil_iff _).mp whole
    · rw [fractional, point] at tail
      have stops := stops_behind_takeWhile (List.cons.inj tail).2
      refine ⟨by simp, fun _ => stops, fun _ noPoint => absurd ?_ noPoint⟩
      rw [fractional]
      simp

/-- Scanning passes over a gap, unless a sigil at its end belongs to a name behind it. -/
theorem scanFrom_gap {gap src : Text} (filler : ∀ b ∈ gap, isFiller b = true)
    (apart : ∀ b ∈ gap.getLast?, isSigil b = true → ∀ c ∈ src.head?, isNameStart c = false)
    (line : Int) : scanFrom line (gap ++ src) = scanFrom (line + gap.count newline) src := by
  induction gap generalizing line with
  | nil => simp
  | cons b gap ih =>
    rw [List.forall_mem_cons] at filler
    have skipped : lexeme? (b :: (gap ++ src)) = none := by
      refine (lexeme?_eq_none_iff b (gap ++ src)).mpr ⟨filler.1, ?_⟩
      intro sigil c first
      cases gap with
      | nil => exact apart b rfl sigil c first
      | cons d gap =>
        cases first
        exact not_isNameStart_of_isFiller (filler.2 c List.mem_cons_self)
    have behind : ∀ d ∈ gap.getLast?, isSigil d = true → ∀ c ∈ src.head?, isNameStart c = false := by
      intro d last
      apply apart d
      rw [List.getLast?_cons, last]
      rfl
    rw [List.cons_append, scanFrom_of_skip line skipped, ih filler.2 behind, line_behind_skip]

theorem not_isNameStart_of_spelled {kind : Kind} {text behind : Text} (spelled : Spelled kind text)
    (other : kind ≠ .word) : ∀ c ∈ (text ++ behind).head?, isNameStart c = false := by
  intro c first
  have digit : isDigit c = true → isNameStart c = false := by
    intro digit
    by_contra starts
    rw [not_isDigit_of_isNameStart (by simpa using starts)] at digit
    cases digit
  cases spelled with
  | word => exact absurd rfl other
  | opening | closing | quote | colon =>
    cases first
    rfl
  | whole number =>
    cases number with
    | intro starts others =>
      cases first
      exact digit starts
  | fractional number _ =>
    cases number with
    | intro starts others =>
      cases first
      exact digit starts

theorem exists_isNameStart {text : Text} (spelled : Spelled .word text) :
    ∃ c rest, text = c :: rest ∧ isNameStart c = true := by
  cases spelled with
  | word named =>
    cases named with
    | intro starts _ => exact ⟨_, _, rfl, starts⟩

/-! ## Divisions -/

structure Piece where
  gap : Text
  token : Token

structure Division where
  pieces : List Piece
  tail : Text

namespace Division

def joined (pieces : List Piece) (gap : Text) : Text :=
  pieces.flatMap (fun piece => piece.gap ++ piece.token.text) ++ gap

def text (d : Division) : Text :=
  joined d.pieces d.tail

def tokens (d : Division) : Program :=
  d.pieces.map Piece.token

def gaps (d : Division) : List Text :=
  d.pieces.map Piece.gap ++ [d.tail]

/-- Every token is a spelling of its kind that nothing behind it continues, no gap holds a byte of a
token or ends with a sigil in front of a word, and the lines are counted from `line` on. -/
structure Maximal (line : Int) (d : Division) : Prop where
  skipped : ∀ gap ∈ d.gaps, ∀ b ∈ gap, isFiller b = true
  spelled : ∀ piece ∈ d.pieces, Spelled piece.token.kind piece.token.text
  apart : ∀ piece ∈ d.pieces, piece.token.kind = .word →
    ∀ b ∈ piece.gap.getLast?, isSigil b = false
  ends : ∀ before piece after, d.pieces = before ++ piece :: after →
    EndsBefore piece.token.kind piece.token.text (joined after d.tail)
  lines : ∀ before piece after, d.pieces = before ++ piece :: after →
    piece.token.line = line + (joined before piece.gap).count newline

theorem joined_cons (piece : Piece) (pieces : List Piece) (gap : Text) :
    joined (piece :: pieces) gap = piece.gap ++ (piece.token.text ++ joined pieces gap) := by
  simp [joined]

theorem maximal_nil {line : Int} {tail : Text} :
    Maximal line ⟨[], tail⟩ ↔ ∀ b ∈ tail, isFiller b = true := by
  constructor
  · intro maximal
    exact maximal.skipped tail (by simp [gaps])
  · intro filler
    exact ⟨by simpa [gaps] using filler, by simp, by simp, by simp, by simp⟩

/-- The first token stands behind its gap; what follows it is divided from its line on. -/
theorem maximal_cons {line : Int} {piece : Piece} {pieces : List Piece} {tail : Text} :
    Maximal line ⟨piece :: pieces, tail⟩ ↔
      (∀ b ∈ piece.gap, isFiller b = true) ∧ Spelled piece.token.kind piece.token.text ∧
        (piece.token.kind = .word → ∀ b ∈ piece.gap.getLast?, isSigil b = false) ∧
        EndsBefore piece.token.kind piece.token.text (joined pieces tail) ∧
        piece.token.line = line + piece.gap.count newline ∧
        Maximal piece.token.line ⟨pieces, tail⟩ := by
  -- The spelling of a token has no newline, so only the gaps count.
  have further : Spelled piece.token.kind piece.token.text →
      piece.token.line = line + piece.gap.count newline → ∀ before gap,
      line + ((joined (piece :: before) gap).count newline : Int) =
        piece.token.line + (joined before gap).count newline := by
    intro spelled here before gap
    have oneLine := List.count_eq_zero_of_not_mem spelled.lexeme.newline_notMem
    rw [joined_cons, List.count_append, List.count_append, oneLine, here]
    omega
  constructor
  · rintro ⟨skipped, spelled, apart, ends, lines⟩
    simp only [gaps, List.map_cons, List.cons_append, List.forall_mem_cons] at skipped spelled apart
    rw [forall_splits_cons] at ends lines
    have here : piece.token.line = line + piece.gap.count newline := by
      simpa [joined] using lines.1
    refine ⟨skipped.1, spelled.1, apart.1, ends.1, here, skipped.2, spelled.2, apart.2, ends.2, ?_⟩
    intro before next after shape
    rw [lines.2 before next after shape]
    exact further spelled.1 here before next.gap
  · rintro ⟨filler, spelling, noSigil, ending, here, skipped, spelled, apart, ends, lines⟩
    refine ⟨List.forall_mem_cons.mpr ⟨filler, skipped⟩, List.forall_mem_cons.mpr ⟨spelling, spelled⟩,
      List.forall_mem_cons.mpr ⟨noSigil, apart⟩, forall_splits_cons.mpr ⟨ending, ends⟩,
      forall_splits_cons.mpr ⟨by simpa [joined] using here, ?_⟩⟩
    intro before next after shape
    rw [lines before next after shape]
    exact (further spelling here before next.gap).symm

/-! ## The tokens of a maximal division -/

theorem Maximal.scanFrom_text {line : Int} {d : Division} (maximal : d.Maximal line) :
    scanFrom line d.text = d.tokens := by
  obtain ⟨pieces, tail⟩ := d
  induction pieces generalizing line with
  | nil =>
    have noName : ∀ b ∈ tail.getLast?, isSigil b = true →
        ∀ c ∈ ([] : Text).head?, isNameStart c = false := by simp
    have empty := scanFrom_gap (maximal_nil.mp maximal) noName line
    rw [List.append_nil, scanFrom.eq_1] at empty
    exact empty
  | cons piece pieces ih =>
    obtain ⟨filler, spelled, apart, ends, here, behind⟩ := maximal_cons.mp maximal
    have noName : ∀ b ∈ piece.gap.getLast?, isSigil b = true →
        ∀ c ∈ (piece.token.text ++ joined pieces tail).head?, isNameStart c = false := by
      intro b last sigil
      apply not_isNameStart_of_spelled spelled
      intro word
      rw [apart word b last] at sigil
      cases sigil
    calc scanFrom line (joined (piece :: pieces) tail)
        = scanFrom piece.token.line (piece.token.text ++ joined pieces tail) := by
          rw [joined_cons, scanFrom_gap filler noName, ← here]
      _ = piece.token :: scanFrom piece.token.line (joined pieces tail) :=
          scanFrom_spelled spelled ends piece.token.line
      _ = piece.token :: pieces.map Piece.token := congrArg _ (ih behind)

/-! ## Every text has a maximal division -/

def skip (b : UInt8) : Division → Division
  | ⟨[], tail⟩ => ⟨[], b :: tail⟩
  | ⟨piece :: pieces, tail⟩ => ⟨{ piece with gap := b :: piece.gap } :: pieces, tail⟩

theorem text_skip (b : UInt8) (d : Division) : (d.skip b).text = b :: d.text := by
  obtain ⟨pieces, tail⟩ := d
  cases pieces with
  | nil => rfl
  | cons piece pieces => simp [skip, text, joined_cons]

theorem Maximal.skip {line : Int} {b : UInt8} {d : Division}
    (skipped : lexeme? (b :: d.text) = none)
    (maximal : d.Maximal (if b = newline then line + 1 else line)) : (d.skip b).Maximal line := by
  obtain ⟨filler, apart⟩ := (lexeme?_eq_none_iff b d.text).mp skipped
  obtain ⟨pieces, tail⟩ := d
  cases pieces with
  | nil => exact maximal_nil.mpr (List.forall_mem_cons.mpr ⟨filler, maximal_nil.mp maximal⟩)
  | cons piece pieces =>
    obtain ⟨fillers, spelled, noSigil, ends, here, behind⟩ := maximal_cons.mp maximal
    rw [line_behind_skip] at here
    refine maximal_cons.mpr
      ⟨List.forall_mem_cons.mpr ⟨filler, fillers⟩, spelled, ?_, ends, here, behind⟩
    intro word c last
    cases gap : piece.gap with
    | cons a gap =>
      rw [gap, List.getLast?_cons_cons, ← gap] at last
      exact noSigil word c last
    | nil =>
      rw [gap] at last
      cases last
      -- A sigil right in front of a word would start a lexeme.
      by_contra sigil
      rw [word] at spelled
      obtain ⟨c, rest, shape, starts⟩ := exists_isNameStart spelled
      have first : (text ⟨piece :: pieces, tail⟩).head? = some c := by
        rw [text, joined_cons, gap, shape]
        rfl
      rw [apart (by simpa using sigil) c first] at starts
      cases starts

theorem exists_maximal (line : Int) (src : Text) :
    ∃ d : Division, d.text = src ∧ d.Maximal line := by
  induction line, src using scanFrom.induct with
  | case1 line => exact ⟨⟨[], []⟩, rfl, maximal_nil.mpr (by simp)⟩
  | case2 line b rest kind text found ih =>
    obtain ⟨d, shape, maximal⟩ := ih
    have lexeme := lexeme_of_lexeme? found
    obtain ⟨behind, parts⟩ := lexeme.starts_text
    rw [← parts, List.drop_left] at shape
    refine ⟨⟨⟨[], ⟨kind, text, line⟩⟩ :: d.pieces, d.tail⟩, ?_, ?_⟩
    · rw [Division.text, joined_cons, List.nil_append, ← parts, ← shape]
      rfl
    · refine maximal_cons.mpr
        ⟨by simp, lexeme.spelled, by simp, lexeme.endsBefore ?_, by simp, maximal⟩
      rw [← parts, ← shape]
      rfl
  | case3 line b rest skipped ih =>
    obtain ⟨d, rfl, maximal⟩ := ih
    simp only [dite_eq_ite] at maximal
    exact ⟨d.skip b, text_skip b d, maximal.skip skipped⟩

end Division

/-- Scanning cuts a text by maximal munch, loses nothing and counts the lines right: its tokens are
those of a maximal division of the text, and every maximal division has these tokens. -/
theorem scan_is_maximal_munch (src : Text) (p : Program) :
    (∃ d : Division, d.text = src ∧ d.Maximal 1 ∧ d.tokens = p) ↔ p = scan src := by
  constructor
  · rintro ⟨d, rfl, maximal, rfl⟩
    exact maximal.scanFrom_text.symm
  · rintro rfl
    obtain ⟨d, rfl, maximal⟩ := Division.exists_maximal 1 src
    exact ⟨d, rfl, maximal, maximal.scanFrom_text.symm⟩

/-- A sigil without a name and a second point fall into the gaps. -/
example :
    (scan (utf8 "\"1.5.2ab\n::c")).map (fun t => (t.text, t.line)) =
      [(utf8 "1.5", 1), (utf8 "2", 1), (utf8 "ab", 1), (utf8 ":c", 2)] := by
  decide +kernel

/-! ## Joined texts -/

def moved (k : Int) (t : Token) : Token :=
  { t with line := t.line + k }

theorem scanFrom_add (line k : Int) (src : Text) :
    scanFrom (line + k) src = (scanFrom line src).map (moved k) := by
  induction line, src using scanFrom.induct with
  | case1 line => simp [scanFrom]
  | case2 line b rest kind text found ih =>
    rw [scanFrom_of_lexeme line found, scanFrom_of_lexeme (line + k) found, ih]
    rfl
  | case3 line b rest skipped ih =>
    simp only [dite_eq_ite] at ih
    rw [scanFrom_of_skip line skipped, scanFrom_of_skip (line + k) skipped, ← ih]
    congr 1
    split <;> ring

/-- Scanning two texts with a newline between them gives the tokens of the first and then those of
the second, which stand as many lines further down as the first has. -/
theorem scan_of_joined_lines (a b : Text) :
    scan (a ++ newline :: b) = scan a ++ (scan b).map (moved (1 + a.count newline)) := by
  rw [scan, scanFrom_append_break isBreak_newline, scanFrom_newline, scan, scan, ← scanFrom_add]
  congr 2
  ring

end Token

end TurtleLogo
