import Mathlib
import TurtleLogo.Program

/-!
# The extents of blocks and bodies

A block and a procedure body are found in the same way, by looking for the token that closes them
and counting those that open and close others on the way. `splitClosing` is this search for any two
sorts of tokens. What it finds is a contiguous part of the program with the closing token behind it,
and more tokens behind the program change nothing.
-/

set_option autoImplicit false

namespace TurtleLogo

/-- What holds at every place of a list holds at its first place and at the places behind. -/
theorem forall_splits_cons {α : Type} {a : α} {l : List α} {P : List α → α → List α → Prop} :
    (∀ before x after, a :: l = before ++ x :: after → P before x after) ↔
      P [] a l ∧ ∀ before x after, l = before ++ x :: after → P (a :: before) x after := by
  constructor
  · intro all
    refine ⟨all [] a l rfl, ?_⟩
    intro before x after shape
    exact all (a :: before) x after (by rw [shape, List.cons_append])
  · rintro ⟨first, others⟩ before x after shape
    cases before with
    | nil =>
      cases shape
      exact first
    | cons b before =>
      cases shape
      exact others before x after rfl

namespace Token

def isOpening (t : Token) : Bool :=
  t.kind == .opening

def isClosing (t : Token) : Bool :=
  t.kind == .closing

end Token

namespace Program

/-- Splits a program at the token that closes what is open around it, `depth` more being open
inside. -/
def splitClosing (opens closes : Token → Bool) (depth : Nat) : Program → Option (Program × Program)
  | [] => none
  | t :: rest =>
    let beyond (depth : Nat) :=
      (splitClosing opens closes depth rest).map fun (body, after) => (t :: body, after)
    if opens t then beyond (depth + 1)
    else if closes t then
      match depth with
      | 0 => some ([], rest)
      | inner + 1 => beyond inner
    else beyond depth

theorem splitBlock_eq (depth : Nat) (p : Program) :
    splitBlock depth p = splitClosing Token.isOpening Token.isClosing depth p := by
  induction p generalizing depth with
  | nil => rfl
  | cons t rest ih =>
    unfold splitBlock splitClosing
    cases kind : t.kind with
    | opening => simp [Token.isOpening, kind, ih]
    | closing => cases depth <;> simp [Token.isOpening, Token.isClosing, kind, ih]
    | _ => simp [Token.isOpening, Token.isClosing, kind, ih]

theorem splitDefinition_eq (depth : Nat) (p : Program) :
    splitDefinition depth p = splitClosing Token.isDef Token.isEnd depth p := by
  induction p generalizing depth with
  | nil => rfl
  | cons t rest ih =>
    unfold splitDefinition splitClosing
    cases depth <;> simp only [ih]

/-- How many tokens are open behind a token if `depth` are open in front of it, unless it closes what
is open around them. -/
def level? (opens closes : Token → Bool) (depth : Nat) (t : Token) : Option Nat :=
  if opens t then some (depth + 1)
  else if closes t then
    match depth with
    | 0 => none
    | outer + 1 => some outer
  else some depth

section

variable {opens closes : Token → Bool} {depth depth' : Nat} {t : Token} {p body after : Program}

theorem level?_eq_none_iff :
    level? opens closes depth t = none ↔ opens t = false ∧ closes t = true ∧ depth = 0 := by
  unfold level?
  by_cases opening : opens t
  · simp [opening]
  · by_cases closing : closes t
    · cases depth <;> simp [opening, closing]
    · simp [opening, closing]

/-- A token opens one more, closes one, or changes nothing. -/
theorem level?_cases (level : level? opens closes depth t = some depth') :
    (opens t = true ∧ depth' = depth + 1) ∨
      (opens t = false ∧ closes t = true ∧ depth = depth' + 1) ∨
        (opens t = false ∧ closes t = false ∧ depth' = depth) := by
  unfold level? at level
  by_cases opening : opens t
  · rw [if_pos opening] at level
    cases level
    exact .inl ⟨opening, rfl⟩
  · rw [if_neg opening] at level
    by_cases closing : closes t
    · rw [if_pos closing] at level
      cases depth with
      | zero => cases level
      | succ outer =>
        cases level
        exact .inr (.inl ⟨by simpa using opening, closing, rfl⟩)
    · rw [if_neg closing] at level
      cases level
      exact .inr (.inr ⟨by simpa using opening, by simpa using closing, rfl⟩)

/-- Around what is open, more may be open. -/
theorem level?_add (level : level? opens closes depth t = some depth') (outer : Nat) :
    level? opens closes (depth + outer) t = some (depth' + outer) := by
  rcases level?_cases level with ⟨opening, rfl⟩ | ⟨noOpening, closing, rfl⟩ | ⟨noOpening, other, rfl⟩
  · simp [level?, opening, Nat.add_right_comm]
  · simp [level?, noOpening, closing, Nat.add_right_comm]
  · simp [level?, noOpening, other]

theorem splitClosing_of_closed (level : level? opens closes depth t = none) (rest : Program) :
    splitClosing opens closes depth (t :: rest) = some ([], rest) := by
  obtain ⟨noOpening, closing, rfl⟩ := level?_eq_none_iff.mp level
  simp [splitClosing, noOpening, closing]

theorem splitClosing_of_level (level : level? opens closes depth t = some depth') (rest : Program) :
    splitClosing opens closes depth (t :: rest) =
      (splitClosing opens closes depth' rest).map fun (body, after) => (t :: body, after) := by
  rcases level?_cases level with ⟨opening, rfl⟩ | ⟨noOpening, closing, rfl⟩ | ⟨noOpening, other, rfl⟩
  · simp [splitClosing, opening]
  · simp [splitClosing, noOpening, closing]
  · simp [splitClosing, noOpening, other]

/-- What a search that gets past a token finds has that token in front. -/
theorem splitClosing_cons {rest : Program}
    (split : splitClosing opens closes depth (t :: rest) = some (body, after)) :
    (level? opens closes depth t = none ∧ body = [] ∧ after = rest) ∨
      ∃ depth' inner, level? opens closes depth t = some depth' ∧
        splitClosing opens closes depth' rest = some (inner, after) ∧ body = t :: inner := by
  cases level : level? opens closes depth t with
  | none =>
    rw [splitClosing_of_closed level] at split
    cases split
    exact .inl ⟨rfl, rfl, rfl⟩
  | some depth' =>
    rw [splitClosing_of_level level] at split
    obtain ⟨⟨inner, behind⟩, inside, same⟩ := Option.map_eq_some_iff.mp split
    cases same
    exact .inr ⟨depth', inner, rfl, inside, rfl⟩

theorem splitClosing_shape (split : splitClosing opens closes depth p = some (body, after)) :
    ∃ close : Token, closes close = true ∧ p = body ++ close :: after := by
  induction p generalizing depth body with
  | nil => simp [splitClosing] at split
  | cons t rest ih =>
    rcases splitClosing_cons split with ⟨level, rfl, rfl⟩ | ⟨_, inner, _, inside, rfl⟩
    · exact ⟨t, (level?_eq_none_iff.mp level).2.1, rfl⟩
    · obtain ⟨close, closing, shape⟩ := ih inside
      exact ⟨close, closing, by rw [shape, List.cons_append]⟩

theorem splitClosing_append (split : splitClosing opens closes depth p = some (body, after))
    (more : Program) : splitClosing opens closes depth (p ++ more) = some (body, after ++ more) := by
  induction p generalizing depth body with
  | nil => simp [splitClosing] at split
  | cons t rest ih =>
    rw [List.cons_append]
    rcases splitClosing_cons split with ⟨level, rfl, rfl⟩ | ⟨_, inner, level, inside, rfl⟩
    · exact splitClosing_of_closed level (after ++ more)
    · rw [splitClosing_of_level level, ih inside]
      rfl

end

/-! ## Blocks and bodies -/

theorem block?_shape {p body after : Program} (found : block? p = some (body, after)) :
    ∃ opening close : Token, p = opening :: (body ++ close :: after) := by
  cases p with
  | nil => simp [block?] at found
  | cons t rest =>
    rw [block?, splitBlock_eq] at found
    split at found
    · obtain ⟨close, _, shape⟩ := splitClosing_shape found
      exact ⟨t, close, by rw [shape]⟩
    · cases found

theorem block?_ends {p body after : Program} (found : block? p = some (body, after)) :
    after <:+ p := by
  obtain ⟨opening, close, shape⟩ := block?_shape found
  exact ⟨opening :: (body ++ [close]), by simp [shape]⟩

theorem block?_append {p body after : Program} (found : block? p = some (body, after))
    (more : Program) : block? (p ++ more) = some (body, after ++ more) := by
  cases p with
  | nil => simp [block?] at found
  | cons t rest =>
    rw [List.cons_append]
    rw [block?, splitBlock_eq] at found ⊢
    split at found
    · rename_i opening
      rw [if_pos opening]
      exact splitClosing_append found more
    · cases found

theorem definition?_shape {p body after : Program} (found : definition? p = some (body, after)) :
    ∃ close : Token, p = body ++ close :: after := by
  rw [definition?, splitDefinition_eq] at found
  obtain ⟨close, _, shape⟩ := splitClosing_shape found
  exact ⟨close, shape⟩

theorem definition?_ends {p body after : Program} (found : definition? p = some (body, after)) :
    after <:+ p := by
  obtain ⟨close, shape⟩ := definition?_shape found
  exact ⟨body ++ [close], by simp [shape]⟩

theorem definition?_append {p body after : Program} (found : definition? p = some (body, after))
    (more : Program) : definition? (p ++ more) = some (body, after ++ more) := by
  rw [definition?, splitDefinition_eq] at found ⊢
  exact splitClosing_append found more

/-! ## Balanced brackets -/

section

variable {depth depth' : Nat} {t : Token}

theorem faultFrom_of_extra (extra : level? Token.isOpening Token.isClosing depth t = none)
    (rest : Program) : faultFrom depth (t :: rest) = some ⟨.extraClosing, t.line⟩ := by
  obtain ⟨_, closing, rfl⟩ := level?_eq_none_iff.mp extra
  simp only [Token.isClosing, beq_iff_eq] at closing
  simp [faultFrom, closing]

theorem faultFrom_of_level (level : level? Token.isOpening Token.isClosing depth t = some depth')
    (rest : Program) : faultFrom depth (t :: rest) = faultFrom depth' rest := by
  cases kind : t.kind <;> cases depth <;>
    simp_all [level?, faultFrom, Token.isOpening, Token.isClosing]

/-- Behind the first token of a balanced program the brackets are balanced at its level. -/
theorem faultFrom_cons {rest : Program} (balanced : faultFrom depth (t :: rest) = none) :
    ∃ depth', level? Token.isOpening Token.isClosing depth t = some depth' ∧
      faultFrom depth' rest = none := by
  cases level : level? Token.isOpening Token.isClosing depth t with
  | none =>
    rw [faultFrom_of_extra level] at balanced
    cases balanced
  | some depth' =>
    rw [faultFrom_of_level level] at balanced
    exact ⟨depth', rfl, balanced⟩

theorem faultFrom_append {p : Program} (closed : faultFrom depth p = none) (q : Program) :
    faultFrom depth (p ++ q) = faultFrom 0 q := by
  induction p generalizing depth with
  | nil =>
    cases depth with
    | zero => rfl
    | succ depth => cases closed
  | cons t rest ih =>
    obtain ⟨depth', level, behind⟩ := faultFrom_cons closed
    rw [List.cons_append, faultFrom_of_level level, ih behind]

end

theorem fault?_append {p q : Program} (first : fault? p = none) (second : fault? q = none) :
    fault? (p ++ q) = none :=
  (faultFrom_append first q).trans second

end Program

end TurtleLogo
