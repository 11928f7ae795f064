import TurtleLogo.Proofs.Nesting

/-!
# Completion

More input completes a program if a bracket or a definition stays open in it and no `]` closes
nothing. The open ones are counted, and as many `]` and `END` behind the program close them all. An
extra `]` is there to stay: no input behind it changes what is reported.
-/

set_option autoImplicit false

namespace TurtleLogo

namespace Program

def Unfinished (p : Program) : Prop :=
  Unclosed Token.isOpening Token.isClosing p ∨ Unclosed Token.isDef Token.isEnd p

theorem not_isDef_of_isEnd (t : Token) (ends : t.isEnd = true) : t.isDef = false := by
  simp only [Token.isEnd, Token.isWord, Bool.and_eq_true, beq_iff_eq] at ends
  simp only [Token.isDef, Token.isWord, ends.2, Bool.and_eq_false_iff]
  exact .inr (by decide)

/-! ## Open brackets and definitions -/

theorem openAfter_append (opens closes : Token → Bool) (depth : Nat) (p q : Program) :
    openAfter opens closes depth (p ++ q) =
      openAfter opens closes (openAfter opens closes depth p) q := by
  induction p generalizing depth with
  | nil => rfl
  | cons t rest ih =>
    rw [List.cons_append, openAfter, openAfter, ih, ih, ih]
    split
    · rfl
    · split <;> rfl

theorem noExtra_append (depth : Nat) (p q : Program) :
    NoExtra depth (p ++ q) ↔
      NoExtra depth p ∧ NoExtra (openAfter Token.isOpening Token.isClosing depth p) q := by
  induction p generalizing depth with
  | nil => simp [noExtra_nil, openAfter]
  | cons t rest ih =>
    rw [List.cons_append, noExtra_cons, noExtra_cons]
    constructor
    · rintro ⟨depth', level, behind⟩
      rw [openAfter_of_level level]
      obtain ⟨first, second⟩ := (ih depth').mp behind
      exact ⟨⟨depth', level, first⟩, second⟩
    · rintro ⟨⟨depth', level, first⟩, second⟩
      rw [openAfter_of_level level] at second
      exact ⟨depth', level, (ih depth').mpr ⟨first, second⟩⟩

theorem incompleteFrom_of_level {depth depth' : Nat} {t : Token}
    (level : level? Token.isOpening Token.isClosing depth t = some depth') (definitions : Nat)
    (rest : Program) :
    incompleteFrom depth definitions (t :: rest) =
      incompleteFrom depth' (openAfter Token.isDef Token.isEnd definitions [t]) rest := by
  cases kind : t.kind with
  | word =>
    have same : depth = depth' := by
      simpa [level?, Token.isOpening, Token.isClosing, kind] using level
    simp only [incompleteFrom, openAfter, kind, same]
    split_ifs <;> rfl
  | _ =>
    cases depth <;>
      simp_all [level?, Token.isOpening, Token.isClosing, incompleteFrom, openAfter, Token.isDef,
        Token.isEnd, Token.isWord]

theorem incompleteFrom_of_extra {depth : Nat} {t : Token}
    (extra : level? Token.isOpening Token.isClosing depth t = none) (definitions : Nat)
    (rest : Program) : incompleteFrom depth definitions (t :: rest) = false := by
  obtain ⟨_, closing, rfl⟩ := level?_eq_none_iff.mp extra
  simp only [Token.isClosing, beq_iff_eq] at closing
  simp [incompleteFrom, closing]

/-- A program is incomplete if it has no extra `]` and leaves a bracket or a definition open. -/
theorem incompleteFrom_iff (depth definitions : Nat) (p : Program) :
    incompleteFrom depth definitions p = true ↔
      NoExtra depth p ∧ (0 < openAfter Token.isOpening Token.isClosing depth p ∨
        0 < openAfter Token.isDef Token.isEnd definitions p) := by
  induction p generalizing depth definitions with
  | nil => simp [incompleteFrom, openAfter, noExtra_nil]
  | cons t rest ih =>
    rw [noExtra_cons]
    cases level : level? Token.isOpening Token.isClosing depth t with
    | none => simp [incompleteFrom_of_extra level]
    | some depth' =>
      rw [incompleteFrom_of_level level, ih, openAfter_of_level level,
        ← openAfter_append, List.singleton_append]
      simp

theorem incomplete_iff (p : Program) : incomplete p = true ↔ NoExtra 0 p ∧ Unfinished p := by
  rw [Unfinished, unclosed_iff not_isOpening_of_isClosing, unclosed_iff not_isDef_of_isEnd]
  exact incompleteFrom_iff 0 0 p

theorem incomplete_eq_false_iff (p : Program) :
    incomplete p = false ↔ ¬(NoExtra 0 p ∧ Unfinished p) := by
  rw [← incomplete_iff, Bool.not_eq_true]

/-! ## Closing what is open -/

def closers (brackets definitions : Nat) : Program :=
  List.replicate brackets ⟨.closing, utf8 "]", 0⟩ ++
    List.replicate definitions ⟨.word, utf8 "END", 0⟩

theorem openAfter_replicate_closing {opens closes : Token → Bool} {t : Token}
    (noOpening : opens t = false) (closing : closes t = true) (depth : Nat) :
    openAfter opens closes depth (List.replicate depth t) = 0 := by
  induction depth with
  | zero => rfl
  | succ depth ih => simpa [List.replicate_succ, openAfter, noOpening, closing] using ih

theorem openAfter_replicate_other {opens closes : Token → Bool} {t : Token}
    (noOpening : opens t = false) (noClosing : closes t = false) (depth k : Nat) :
    openAfter opens closes depth (List.replicate k t) = depth := by
  induction k with
  | zero => rfl
  | succ k ih => simpa [List.replicate_succ, openAfter, noOpening, noClosing] using ih

theorem openAfter_closers (brackets definitions : Nat) :
    openAfter Token.isOpening Token.isClosing brackets (closers brackets definitions) = 0 ∧
      openAfter Token.isDef Token.isEnd definitions (closers brackets definitions) = 0 := by
  have close : ∀ k, openAfter Token.isDef Token.isEnd definitions
      (List.replicate k ⟨.closing, utf8 "]", 0⟩) = definitions :=
    openAfter_replicate_other rfl rfl definitions
  have theEnd : ∀ k, openAfter Token.isOpening Token.isClosing 0
      (List.replicate k ⟨.word, utf8 "END", 0⟩) = 0 :=
    openAfter_replicate_other rfl rfl 0
  unfold closers
  rw [openAfter_append, openAfter_append, close, openAfter_replicate_closing rfl rfl, theEnd]
  exact ⟨rfl, openAfter_replicate_closing (by decide) (by decide) definitions⟩

theorem noExtra_of_countP_le {depth : Nat} {p : Program}
    (few : p.countP Token.isClosing ≤ depth) : NoExtra depth p := by
  rintro before t after rfl ⟨_, more⟩
  have within : (before ++ [t]).countP Token.isClosing ≤
      (before ++ t :: after).countP Token.isClosing := by
    apply List.Sublist.countP_le
    simp
  omega

theorem noExtra_closers (brackets definitions : Nat) :
    NoExtra brackets (closers brackets definitions) := by
  apply noExtra_of_countP_le
  simp [closers, List.countP_replicate, Token.isClosing]

theorem exists_completion {p : Program} (noExtra : NoExtra 0 p) :
    ∃ q, fault? (p ++ q) = none ∧ incomplete (p ++ q) = false := by
  let brackets := openAfter Token.isOpening Token.isClosing 0 p
  let definitions := openAfter Token.isDef Token.isEnd 0 p
  obtain ⟨noBrackets, noDefinitions⟩ := openAfter_closers brackets definitions
  rw [← openAfter_append] at noBrackets noDefinitions
  have whole : NoExtra 0 (p ++ closers brackets definitions) :=
    (noExtra_append 0 p _).mpr ⟨noExtra, noExtra_closers brackets definitions⟩
  refine ⟨closers brackets definitions, ?_, ?_⟩
  · rw [fault?, faultFrom_of_noExtra whole, if_pos noBrackets]
  · rw [incomplete_eq_false_iff, Unfinished, unclosed_iff not_isOpening_of_isClosing,
      unclosed_iff not_isDef_of_isEnd, noBrackets, noDefinitions]
    simp

theorem noExtra_of_fault?_eq_none {p : Program} (balanced : fault? p = none) : NoExtra 0 p := by
  by_contra extra
  obtain ⟨before, t, after, rfl, here, earlier⟩ := exists_first_extra extra
  rw [fault?, faultFrom_of_first_extra earlier here after] at balanced
  cases balanced

/-- An extra `]` is reported whatever follows, and no more input is asked for. -/
theorem first_extra_stays {before : Program} {t : Token} (earlier : NoExtra 0 before)
    (extra : IsExtra 0 before t) (after : Program) :
    fault? (before ++ t :: after) = some ⟨.extraClosing, t.line⟩ ∧
      incomplete (before ++ t :: after) = false := by
  refine ⟨faultFrom_of_first_extra earlier extra after, ?_⟩
  rw [incomplete_eq_false_iff]
  rintro ⟨noExtra, _⟩
  exact noExtra before t after rfl extra

/-- More input can still complete a program exactly if a bracket or a definition stays open in it and
some input closes all that is open. Otherwise a fault is final: whatever follows, the same diagnostic
is reported and no more input is asked for. A missing `]` is never such a fault. -/
theorem incomplete_means_completable (p : Program) :
    (incomplete p = true ↔
        Unfinished p ∧ ∃ q, fault? (p ++ q) = none ∧ incomplete (p ++ q) = false) ∧
      (∀ d, incomplete p = false ∧ fault? p = some d ↔
        ∀ q, fault? (p ++ q) = some d ∧ incomplete (p ++ q) = false) ∧
      (fault? p = some ⟨.missingClosing, 0⟩ → incomplete p = true) := by
  refine ⟨?_, ?_, ?_⟩
  · rw [incomplete_iff]
    constructor
    · rintro ⟨noExtra, unfinished⟩
      exact ⟨unfinished, exists_completion noExtra⟩
    · rintro ⟨unfinished, q, balanced, _⟩
      have noExtra := (noExtra_append 0 p q).mp (noExtra_of_fault?_eq_none balanced)
      exact ⟨noExtra.1, unfinished⟩
  · intro d
    constructor
    · rintro ⟨complete, fault⟩ q
      rcases (fault?_eq_some_iff p d).mp fault with
        ⟨before, t, after, rfl, extra, earlier, rfl⟩ | ⟨noExtra, unclosed, _⟩
      · rw [List.append_assoc, List.cons_append]
        exact first_extra_stays earlier extra (after ++ q)
      · rw [(incomplete_iff p).mpr ⟨noExtra, .inl unclosed⟩] at complete
        cases complete
    · intro stays
      have here := stays []
      rw [List.append_nil] at here
      exact here.symm
  · intro missing
    rcases (fault?_eq_some_iff p _).mp missing with
      ⟨_, _, _, _, _, _, other⟩ | ⟨noExtra, unclosed, _⟩
    · cases other
    · exact (incomplete_iff p).mpr ⟨noExtra, .inl unclosed⟩

/-- A definition and the loop in it are left open, behind an `END` that closes nothing. -/
theorem incomplete_means_completable_definition :
    let p : Program := Token.scan (utf8 "END DEF a REPEAT 2 [")
    fault? p = some ⟨.missingClosing, 0⟩ ∧ incomplete p = true ∧
      ∃ q, fault? (p ++ q) = none ∧ incomplete (p ++ q) = false := by
  intro p
  have missing : fault? p = some ⟨.missingClosing, 0⟩ := by decide +kernel
  obtain ⟨completable, _, missed⟩ := incomplete_means_completable p
  have incomplete := missed missing
  exact ⟨missing, incomplete, (completable.mp incomplete).2⟩

end Program

end TurtleLogo
