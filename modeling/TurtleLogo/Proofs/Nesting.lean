import TurtleLogo.Proofs.Brackets

/-!
# Nesting

Brackets and definitions nest by the same grammar, for different sorts of tokens. The search for the
token that closes something finds exactly what the grammar encloses, and counting open tokens tells
whether one stays unclosed. So the check of the brackets decides the bracket language, and where it
refuses a program it names the first `]` that closes nothing, or else a `[` stays open.
-/

set_option autoImplicit false

namespace TurtleLogo

namespace Program

/-- Tokens of two sorts enclose each other properly, among any tokens of other sorts. -/
inductive Nested (opens closes : Token → Bool) : Program → Prop
  | nil : Nested opens closes []
  | other {t : Token} {rest : Program} (noOpening : opens t = false) (noClosing : closes t = false)
      (behind : Nested opens closes rest) : Nested opens closes (t :: rest)
  | enclosed {left right : Token} {body rest : Program} (opening : opens left = true)
      (closing : closes right = true) (inside : Nested opens closes body)
      (behind : Nested opens closes rest) : Nested opens closes (left :: (body ++ right :: rest))

def Unclosed (opens closes : Token → Bool) (p : Program) : Prop :=
  ∃ before left after, p = before ++ left :: after ∧ opens left = true ∧
    ¬∃ body right rest, Nested opens closes body ∧ closes right = true ∧
      after = body ++ right :: rest

/-- How many tokens are open behind a program if `depth` are open in front of it. A closing token
where none is open changes nothing. -/
def openAfter (opens closes : Token → Bool) (depth : Nat) : Program → Nat
  | [] => depth
  | t :: rest =>
    if opens t then openAfter opens closes (depth + 1) rest
    else if closes t then openAfter opens closes (depth - 1) rest
    else openAfter opens closes depth rest

section

variable {opens closes : Token → Bool} {depth depth' : Nat} {p q body after : Program}

theorem Nested.append (first : Nested opens closes p) (second : Nested opens closes q) :
    Nested opens closes (p ++ q) := by
  induction first with
  | nil => exact second
  | other noOpening noClosing _ ih => exact .other noOpening noClosing ih
  | enclosed opening closing inside _ _ ih =>
    rw [List.cons_append, List.append_assoc, List.cons_append]
    exact .enclosed opening closing inside ih

/-! ## What a search for a closing token finds -/

inductive NestedIn (opens closes : Token → Bool) : Nat → Program → Prop
  | whole {p : Program} (nested : Nested opens closes p) : NestedIn opens closes 0 p
  | closed {depth : Nat} {p rest : Program} {right : Token} (nested : Nested opens closes p)
      (closing : closes right = true) (behind : NestedIn opens closes depth rest) :
      NestedIn opens closes (depth + 1) (p ++ right :: rest)

theorem NestedIn.prepend (nested : Nested opens closes p) (behind : NestedIn opens closes depth q) :
    NestedIn opens closes depth (p ++ q) := by
  cases behind with
  | whole second => exact .whole (nested.append second)
  | closed second closing behind =>
    rw [← List.append_assoc]
    exact .closed (nested.append second) closing behind

theorem NestedIn.enclosed {left : Token} (opening : opens left = true)
    (inside : NestedIn opens closes (depth + 1) p) : NestedIn opens closes depth (left :: p) := by
  cases inside with
  | @closed _ body rest right nested closing behind =>
    have block : Nested opens closes (left :: (body ++ [right])) :=
      .enclosed opening closing nested .nil
    have whole := behind.prepend block
    rwa [List.cons_append, List.append_assoc, List.singleton_append] at whole

theorem NestedIn.cons {t : Token} (level : level? opens closes depth t = some depth')
    (behind : NestedIn opens closes depth' p) : NestedIn opens closes depth (t :: p) := by
  rcases level?_cases level with ⟨opening, rfl⟩ | ⟨_, closing, rfl⟩ | ⟨noOpening, noClosing, rfl⟩
  · exact behind.enclosed opening
  · exact .closed .nil closing behind
  · have single : Nested opens closes [t] := .other noOpening noClosing .nil
    exact behind.prepend single

theorem nestedIn_of_splitClosing (split : splitClosing opens closes depth p = some (body, after)) :
    NestedIn opens closes depth body := by
  induction p generalizing depth body with
  | nil => cases split
  | cons t rest ih =>
    rcases splitClosing_cons split with ⟨level, rfl, _⟩ | ⟨depth', inner, level, inside, rfl⟩
    · rw [(level?_eq_none_iff.mp level).2.2]
      exact .whole .nil
    · exact (ih inside).cons level

section Apart

variable (apart : ∀ t, closes t = true → opens t = false)

include apart

theorem Nested.splitClosing_append (nested : Nested opens closes q) (depth : Nat) (p : Program) :
    splitClosing opens closes depth (q ++ p) =
      (splitClosing opens closes depth p).map fun (body, after) => (q ++ body, after) := by
  induction nested generalizing depth p with
  | nil => simp
  | other noOpening noClosing _ ih =>
    simp [splitClosing, noOpening, noClosing, ih, Function.comp_def]
  | enclosed opening closing _ _ inner ih =>
    simp [splitClosing, opening, closing, apart _ closing, inner, ih, Function.comp_def]

theorem splitClosing_eq_some_iff :
    splitClosing opens closes 0 p = some (body, after) ↔
      Nested opens closes body ∧ ∃ right, closes right = true ∧ p = body ++ right :: after := by
  constructor
  · intro split
    cases nestedIn_of_splitClosing split with
    | whole nested => exact ⟨nested, splitClosing_shape split⟩
  · rintro ⟨nested, right, closing, rfl⟩
    rw [nested.splitClosing_append apart]
    simp [splitClosing, closing, apart right closing]

theorem splitClosing_eq_none_iff :
    splitClosing opens closes 0 p = none ↔
      ¬∃ body right rest, Nested opens closes body ∧ closes right = true ∧
        p = body ++ right :: rest := by
  constructor
  · rintro unsplit ⟨body, right, rest, nested, closing, shape⟩
    rw [(splitClosing_eq_some_iff apart).mpr ⟨nested, right, closing, shape⟩] at unsplit
    cases unsplit
  · intro unclosed
    cases split : splitClosing opens closes 0 p with
    | none => rfl
    | some found =>
      obtain ⟨nested, right, closing, shape⟩ := (splitClosing_eq_some_iff apart).mp split
      exact absurd ⟨found.1, right, found.2, nested, closing, shape⟩ unclosed

/-! ## What counting finds -/

omit apart in
theorem openAfter_of_level {t : Token} (level : level? opens closes depth t = some depth')
    (rest : Program) :
    openAfter opens closes depth (t :: rest) = openAfter opens closes depth' rest := by
  rcases level?_cases level with ⟨opening, rfl⟩ | ⟨noOpening, closing, rfl⟩ | ⟨noOpening, other, rfl⟩
  · simp [openAfter, opening]
  · simp [openAfter, noOpening, closing]
  · simp [openAfter, noOpening, other]

theorem unclosed_cons {t : Token} {rest : Program} :
    Unclosed opens closes (t :: rest) ↔
      (opens t = true ∧ splitClosing opens closes 0 rest = none) ∨ Unclosed opens closes rest := by
  rw [splitClosing_eq_none_iff apart]
  constructor
  · rintro ⟨before, left, after, shape, opening, unclosed⟩
    cases before with
    | nil =>
      cases shape
      exact .inl ⟨opening, unclosed⟩
    | cons b before =>
      cases shape
      exact .inr ⟨before, left, after, rfl, opening, unclosed⟩
  · rintro (⟨opening, unclosed⟩ | ⟨before, left, after, rfl, opening, unclosed⟩)
    · exact ⟨[], t, rest, rfl, opening, unclosed⟩
    · exact ⟨t :: before, left, after, rfl, opening, unclosed⟩

omit apart in
theorem not_unclosed_nil : ¬Unclosed opens closes [] := by
  rintro ⟨before, left, after, shape, _⟩
  simp at shape

omit apart in
/-- Where not even the innermost open token is closed, no other one is. -/
theorem splitClosing_add (unclosed : splitClosing opens closes depth p = none) (outer : Nat) :
    splitClosing opens closes (depth + outer) p = none := by
  induction p generalizing depth with
  | nil => rfl
  | cons t rest ih =>
    cases level : level? opens closes depth t with
    | none =>
      rw [splitClosing_of_closed level] at unclosed
      cases unclosed
    | some depth' =>
      rw [splitClosing_of_level level, Option.map_eq_none_iff] at unclosed
      rw [splitClosing_of_level (level?_add level outer), Option.map_eq_none_iff]
      exact ih unclosed

/-- A token is open behind a program if one of its own stays unclosed, or the outermost of those that
were open in front of it. -/
theorem openAfter_pos_iff (depth : Nat) (p : Program) :
    0 < openAfter opens closes depth p ↔
      Unclosed opens closes p ∨
        ∃ outer, depth = outer + 1 ∧ splitClosing opens closes outer p = none := by
  induction p generalizing depth with
  | nil =>
    cases depth with
    | zero => simp [openAfter, not_unclosed_nil]
    | succ outer => simp [openAfter, splitClosing]
  | cons t rest ih =>
    rw [unclosed_cons apart, openAfter]
    by_cases opening : opens t
    · rw [if_pos opening, ih]
      constructor
      · rintro (unclosed | ⟨outer, same, unclosed⟩)
        · exact .inl (.inr unclosed)
        · cases same
          cases depth with
          | zero => exact .inl (.inl ⟨opening, unclosed⟩)
          | succ outer => exact .inr ⟨outer, rfl, by simp [splitClosing, opening, unclosed]⟩
      · rintro ((⟨_, unclosed⟩ | unclosed) | ⟨outer, rfl, unclosed⟩)
        · have outermost := splitClosing_add unclosed depth
          rw [Nat.zero_add] at outermost
          exact .inr ⟨depth, rfl, outermost⟩
        · exact .inl unclosed
        · exact .inr ⟨outer + 1, rfl, by simpa [splitClosing, opening] using unclosed⟩
    · rw [if_neg opening]
      by_cases closing : closes t
      · rw [if_pos closing, ih]
        cases depth with
        | zero => simp [opening]
        | succ outer => cases outer <;> simp [splitClosing, opening, closing]
      · rw [if_neg closing, ih]
        simp [splitClosing, opening, closing]

theorem unclosed_iff (p : Program) :
    Unclosed opens closes p ↔ 0 < openAfter opens closes 0 p := by
  rw [openAfter_pos_iff apart]
  simp

end Apart

end

/-! ## Brackets -/

theorem not_isOpening_of_isClosing (t : Token) (closing : t.isClosing = true) :
    t.isOpening = false := by
  simp only [Token.isClosing, beq_iff_eq] at closing
  simp [Token.isOpening, closing]

/-- No brackets are found at fault exactly in the bracket language. -/
theorem fault?_eq_none_iff (p : Program) :
    fault? p = none ↔ Nested Token.isOpening Token.isClosing p := by
  -- A program with a `]` behind it is the inside of a block exactly if its brackets are balanced.
  let close : Token := ⟨.closing, [], 0⟩
  have inside : fault? p = none ↔ splitBlock 0 (p ++ [close]) = some (p, []) := by
    constructor
    · intro balanced
      exact splitBlock_append_closing balanced rfl []
    · intro split
      exact faultFrom_of_splitBlock split
  rw [inside, splitBlock_eq, splitClosing_eq_some_iff not_isOpening_of_isClosing]
  constructor
  · rintro ⟨nested, _⟩
    exact nested
  · intro nested
    exact ⟨nested, close, rfl, rfl⟩

/-- A `]` up to which there are more `]` than `[` and open brackets in front of the program. -/
def IsExtra (depth : Nat) (before : Program) (t : Token) : Prop :=
  t.isClosing = true ∧
    depth + (before ++ [t]).countP Token.isOpening < (before ++ [t]).countP Token.isClosing

def NoExtra (depth : Nat) (p : Program) : Prop :=
  ∀ before t after, p = before ++ t :: after → ¬IsExtra depth before t

theorem noExtra_nil (depth : Nat) : NoExtra depth [] := by
  intro before t after shape
  simp at shape

theorem isExtra_nil {depth : Nat} {t : Token} :
    IsExtra depth [] t ↔ level? Token.isOpening Token.isClosing depth t = none := by
  rw [level?_eq_none_iff]
  constructor
  · rintro ⟨closing, more⟩
    have noOpening := not_isOpening_of_isClosing t closing
    simp only [List.nil_append, List.countP_singleton, noOpening, closing] at more
    exact ⟨noOpening, closing, by simpa using more⟩
  · rintro ⟨noOpening, closing, rfl⟩
    exact ⟨closing, by simp [noOpening, closing]⟩

theorem isExtra_cons {depth depth' : Nat} {t : Token}
    (level : level? Token.isOpening Token.isClosing depth t = some depth') (before : Program)
    (x : Token) : IsExtra depth (t :: before) x ↔ IsExtra depth' before x := by
  have counted : depth + (if t.isOpening then 1 else 0) = depth' + if t.isClosing then 1 else 0 := by
    rcases level?_cases level with ⟨opening, rfl⟩ | ⟨noOpening, closing, rfl⟩ | ⟨noOpening, other, rfl⟩
    · have noClosing : t.isClosing = false := by
        simp only [Token.isOpening, beq_iff_eq] at opening
        simp [Token.isClosing, opening]
      simp [opening, noClosing]
    · simp [noOpening, closing]
    · simp [noOpening, other]
  unfold IsExtra
  rw [List.cons_append, List.countP_cons, List.countP_cons]
  constructor
  · rintro ⟨closing, more⟩
    exact ⟨closing, by omega⟩
  · rintro ⟨closing, more⟩
    exact ⟨closing, by omega⟩

theorem noExtra_cons {depth : Nat} {t : Token} {rest : Program} :
    NoExtra depth (t :: rest) ↔
      ∃ depth', level? Token.isOpening Token.isClosing depth t = some depth' ∧
        NoExtra depth' rest := by
  unfold NoExtra
  rw [forall_splits_cons, isExtra_nil]
  constructor
  · rintro ⟨here, behind⟩
    obtain ⟨depth', level⟩ := Option.ne_none_iff_exists'.mp here
    refine ⟨depth', level, ?_⟩
    intro before x after shape extra
    exact behind before x after shape ((isExtra_cons level before x).mpr extra)
  · rintro ⟨depth', level, behind⟩
    refine ⟨by simp [level], ?_⟩
    intro before x after shape extra
    exact behind before x after shape ((isExtra_cons level before x).mp extra)

/-- Without an extra `]` it only matters how many brackets stay open. -/
theorem faultFrom_of_noExtra {depth : Nat} {p : Program} (noExtra : NoExtra depth p) :
    faultFrom depth p =
      if openAfter Token.isOpening Token.isClosing depth p = 0 then none
      else some ⟨.missingClosing, 0⟩ := by
  induction p generalizing depth with
  | nil => rfl
  | cons t rest ih =>
    obtain ⟨depth', level, behind⟩ := noExtra_cons.mp noExtra
    rw [faultFrom_of_level level, openAfter_of_level level, ih behind]

/-- The first extra `]` is reported, whatever follows it. -/
theorem faultFrom_of_first_extra {depth : Nat} {before : Program} {t : Token}
    (noExtra : NoExtra depth before) (extra : IsExtra depth before t) (after : Program) :
    faultFrom depth (before ++ t :: after) = some ⟨.extraClosing, t.line⟩ := by
  induction before generalizing depth with
  | nil => exact faultFrom_of_extra (isExtra_nil.mp extra) after
  | cons x before ih =>
    obtain ⟨depth', level, behind⟩ := noExtra_cons.mp noExtra
    rw [List.cons_append, faultFrom_of_level level]
    exact ih behind ((isExtra_cons level before t).mp extra)

theorem exists_first_extra {depth : Nat} {p : Program} (extra : ¬NoExtra depth p) :
    ∃ before t after, p = before ++ t :: after ∧ IsExtra depth before t ∧ NoExtra depth before := by
  induction p generalizing depth with
  | nil => exact absurd (noExtra_nil depth) extra
  | cons x rest ih =>
    cases level : level? Token.isOpening Token.isClosing depth x with
    | none => exact ⟨[], x, rest, rfl, isExtra_nil.mpr level, noExtra_nil depth⟩
    | some depth' =>
      have behind : ¬NoExtra depth' rest := by
        intro noExtra
        exact extra (noExtra_cons.mpr ⟨depth', level, noExtra⟩)
      obtain ⟨before, t, after, rfl, here, earlier⟩ := ih behind
      exact ⟨x :: before, t, after, rfl, (isExtra_cons level before t).mpr here,
        noExtra_cons.mpr ⟨depth', level, earlier⟩⟩

theorem fault?_eq_some_iff (p : Program) (d : Diagnostic) :
    fault? p = some d ↔
      (∃ before t after, p = before ++ t :: after ∧ IsExtra 0 before t ∧ NoExtra 0 before ∧
          d = ⟨.extraClosing, t.line⟩) ∨
        (NoExtra 0 p ∧ Unclosed Token.isOpening Token.isClosing p ∧ d = ⟨.missingClosing, 0⟩) := by
  rw [unclosed_iff not_isOpening_of_isClosing]
  constructor
  · intro fault
    by_cases noExtra : NoExtra 0 p
    · rw [fault?, faultFrom_of_noExtra noExtra] at fault
      split at fault
      · cases fault
      · rename_i unclosed
        cases fault
        exact .inr ⟨noExtra, Nat.pos_of_ne_zero unclosed, rfl⟩
    · obtain ⟨before, t, after, rfl, extra, earlier⟩ := exists_first_extra noExtra
      rw [fault?, faultFrom_of_first_extra earlier extra after] at fault
      cases fault
      exact .inl ⟨before, t, after, rfl, extra, earlier, rfl⟩
  · rintro (⟨before, t, after, rfl, extra, earlier, rfl⟩ | ⟨noExtra, unclosed, rfl⟩)
    · exact faultFrom_of_first_extra earlier extra after
    · rw [fault?, faultFrom_of_noExtra noExtra, if_neg (Nat.ne_of_gt unclosed)]

/-- The check of the brackets accepts exactly the bracket language. It refuses a program with a
structural diagnostic: on the line of the first `]` up to which there are more `]` than `[`, or
without a line if there is none and a `[` stays open. -/
theorem fault?_decides_bracket_language (p : Program) :
    (fault? p = none ↔ Nested Token.isOpening Token.isClosing p) ∧
      ∀ d : Diagnostic, fault? p = some d ↔
        d.kind = .structural ∧
          ((∃ before t after, p = before ++ t :: after ∧ IsExtra 0 before t ∧ NoExtra 0 before ∧
              d = ⟨.extraClosing, t.line⟩) ∨
            (NoExtra 0 p ∧ Unclosed Token.isOpening Token.isClosing p ∧
              d = ⟨.missingClosing, 0⟩)) := by
  refine ⟨fault?_eq_none_iff p, ?_⟩
  intro d
  rw [fault?_eq_some_iff]
  constructor
  · intro fault
    refine ⟨?_, fault⟩
    rcases fault with ⟨_, _, _, _, _, _, rfl⟩ | ⟨_, _, rfl⟩
    · rfl
    · rfl
  · exact And.right

end Program

end TurtleLogo
