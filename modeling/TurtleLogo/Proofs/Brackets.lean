import TurtleLogo.Proofs.Extents

/-!
# Balanced brackets and blocks

A program whose brackets are balanced holds every block that starts in it, down to its `]`, and the
inside of a block is balanced again. Seen from around it, a balanced program is a single piece: the
search for the end of a block passes over it.
-/

set_option autoImplicit false

namespace TurtleLogo

namespace Program

/-- The search for the end of a block passes over balanced brackets. -/
theorem splitBlock_append_closing {depth : Nat} {body : Program} {close : Token}
    (balanced : faultFrom depth body = none) (closing : close.kind = .closing) (after : Program) :
    splitBlock depth (body ++ close :: after) = some (body, after) := by
  rw [splitBlock_eq]
  induction body generalizing depth with
  | nil =>
    cases depth with
    | zero => simp [splitClosing, Token.isOpening, Token.isClosing, closing]
    | succ depth => cases balanced
  | cons t rest ih =>
    obtain ⟨depth', level, behind⟩ := faultFrom_cons balanced
    rw [List.cons_append, splitClosing_of_level level, ih behind]
    rfl

theorem block?_of_balanced {opening close : Token} {body : Program} (opens : opening.kind = .opening)
    (balanced : fault? body = none) (closing : close.kind = .closing) (after : Program) :
    block? (opening :: (body ++ close :: after)) = some (body, after) := by
  rw [block?, if_pos opens]
  exact splitBlock_append_closing balanced closing after

theorem faultFrom_of_splitBlock {depth : Nat} {p body after : Program}
    (found : splitBlock depth p = some (body, after)) : faultFrom depth body = none := by
  rw [splitBlock_eq] at found
  induction p generalizing depth body with
  | nil => cases found
  | cons t rest ih =>
    rcases splitClosing_cons found with ⟨level, rfl, _⟩ | ⟨depth', inner, level, inside, rfl⟩
    · rw [(level?_eq_none_iff.mp level).2.2]
      rfl
    · rw [faultFrom_of_level level]
      exact ih inside

theorem fault?_of_block? {p body after : Program} (found : block? p = some (body, after)) :
    fault? body = none := by
  cases p with
  | nil => cases found
  | cons t rest =>
    rw [block?] at found
    split at found
    · exact faultFrom_of_splitBlock found
    · cases found

/-! ## Blocks that start in a program -/

def ClosesBlocks (p : Program) : Prop :=
  ∀ q, q <:+ p → startsBlock q = true → (block? q).isSome

theorem ClosesBlocks.rest {p q : Program} (closes : ClosesBlocks p) (ends : q <:+ p) :
    ClosesBlocks q := by
  intro r inside starts
  exact closes r (inside.trans ends) starts

/-- Where more brackets are open than a search has met, it finds the end of its block. -/
theorem splitBlock_isSome {depth outer : Nat} {p : Program}
    (balanced : faultFrom (depth + 1 + outer) p = none) : (splitBlock depth p).isSome := by
  rw [splitBlock_eq]
  induction p generalizing depth with
  | nil =>
    simp [faultFrom] at balanced
  | cons t rest ih =>
    cases level : level? Token.isOpening Token.isClosing depth t with
    | none =>
      rw [splitClosing_of_closed level]
      rfl
    | some depth' =>
      have above := level?_add level (1 + outer)
      rw [← Nat.add_assoc, ← Nat.add_assoc] at above
      rw [faultFrom_of_level above] at balanced
      rw [splitClosing_of_level level, Option.isSome_map]
      exact ih balanced

theorem closesBlocks_of_faultFrom {depth : Nat} {p : Program} (balanced : faultFrom depth p = none) :
    ClosesBlocks p := by
  induction p generalizing depth with
  | nil =>
    intro q ends starts
    rw [List.suffix_nil.mp ends] at starts
    cases starts
  | cons t rest ih =>
    obtain ⟨depth', level, behind⟩ := faultFrom_cons balanced
    intro q ends starts
    rcases List.suffix_cons_iff.mp ends with rfl | inside
    · have opens : t.kind = .opening := by simpa [startsBlock] using starts
      have deeper : depth' = 0 + 1 + depth := by
        simp [level?, Token.isOpening, opens] at level
        omega
      rw [deeper] at behind
      rw [block?, if_pos opens]
      exact splitBlock_isSome behind
    · exact ih behind q inside starts

end Program

end TurtleLogo
