import TurtleLogo.Proofs.Evaluation

/-!
# Runs and their waits

A run takes step after step, and waits after every one that moves. As long as the waits go well, it
does what stepping does; it ends with the step that reports the end, or with the first wait that
fails. What a run did and why it failed can be traced to one of its steps.
-/

set_option autoImplicit false

namespace TurtleLogo

namespace Machine

/-! ## Steps that move -/

section Moves

variable {m m' : Machine} {k : Nat} {is : List Instruction}

theorem steps_of_moved {i : Option Instruction} (step : m.step = (.moved i, m')) :
    m'.steps = m.steps + 1 := by
  have stepped := stepped_of_step step
  cases stepped with
  | opened | carriedOut => rfl

theorem Moves.steps (moves : m.Moves k is m') : m'.steps = m.steps + k := by
  induction moves with
  | zero m => rfl
  | @succ m middle m' i k is step later ih =>
    have counted := steps_of_moved step
    omega

theorem Ends.steps {fault : Option Diagnostic} (ends : m.Ends k is fault m') :
    m'.steps = m.steps + k + fault.toList.length := by
  obtain ⟨last, moves, ending⟩ := ends
  rw [← moves.steps]
  cases fault with
  | none =>
    cases stepped_of_step ending with
    | ended => rfl
  | some d =>
    cases stepped_of_step ending with
    | refused | blocked => rfl

theorem Moves.within {n : Nat} (moves : m.Moves k is m') (within : m.Within n) : m'.Within n := by
  induction moves with
  | zero m => exact within
  | succ step later ih => exact ih (step_within within step)

theorem Moves.snoc {last : Machine} {i : Option Instruction} (moves : m.Moves k is m')
    (step : m'.step = (.moved i, last)) : m.Moves (k + 1) (is ++ i.toList) last := by
  induction moves with
  | zero m =>
    have one := Moves.succ step (.zero last)
    rw [List.append_nil] at one
    exact one
  | succ first later ih =>
    rw [List.append_assoc]
    exact .succ first (ih step)

/-- Steps that move can be told apart at any of them. -/
theorem Moves.split {j : Nat} (moves : m.Moves (j + k) is m') :
    ∃ first middle rest, m.Moves j first middle ∧ middle.Moves k rest m' ∧ is = first ++ rest := by
  induction j generalizing m is with
  | zero =>
    rw [Nat.zero_add] at moves
    exact ⟨[], m, is, .zero m, moves, rfl⟩
  | succ j ih =>
    rw [Nat.succ_add] at moves
    cases moves with
    | @succ _ next _ i _ later step onward =>
      obtain ⟨first, middle, rest, before, behind, parts⟩ := ih onward
      refine ⟨i.toList ++ first, middle, rest, .succ step before, behind, ?_⟩
      rw [parts, List.append_assoc]

theorem Moves.step_of_mem {i : Instruction} (moves : m.Moves k is m') (member : i ∈ is) :
    ∃ k is before after, m.Moves k is before ∧ before.step = (.moved (some i), after) := by
  induction moves with
  | zero m => cases member
  | @succ m middle m' j k is step later ih =>
    rcases List.mem_append.mp member with now | rest
    · rw [Option.mem_toList] at now
      cases now
      exact ⟨0, [], m, middle, .zero m, step⟩
    · obtain ⟨k, is, before, after, onward, gives⟩ := ih rest
      exact ⟨k + 1, j.toList ++ is, before, after, .succ step onward, gives⟩

end Moves

/-! ## Waits in between -/

/-- `Proceeds waits m drawn made r`: from `m`, with instructions `drawn` and `made` waits before it, a
run comes to `r`. Some steps move and their waits go well; then a step reports the end, or it moves
and its wait breaks the run off. -/
inductive Proceeds (waits : Waits) (m : Machine) (drawn : List Instruction) (made : Nat) : Run → Prop
  | ended {k : Nat} {is : List Instruction} {fault : Option Diagnostic} {last m' : Machine}
      (moves : m.Moves k is last) (well : ∀ j, made < j → j ≤ made + k → waits j = none)
      (step : last.step = (.ending fault, m')) :
      Proceeds waits m drawn made ⟨m', drawn ++ is, made + k, fault.map .diagnosed⟩
  | brokenOff {k : Nat} {is : List Instruction} {i : Option Instruction} {last m' : Machine}
      {reason : Interruption} (moves : m.Moves k is last)
      (well : ∀ j, made < j → j ≤ made + k → waits j = none) (step : last.step = (.moved i, m'))
      (fails : waits (made + k + 1) = some reason) :
      Proceeds waits m drawn made ⟨{ m' with frames := [] }, drawn ++ is ++ i.toList, made + k + 1,
        some (.interrupted m'.steps reason)⟩

namespace Proceeds

variable {waits : Waits} {m : Machine} {drawn : List Instruction} {made : Nat} {r : Run}

theorem succ {middle : Machine} {i : Option Instruction} (step : m.step = (.moved i, middle))
    (well : waits (made + 1) = none) (later : Proceeds waits middle (drawn ++ i.toList) (made + 1) r) :
    Proceeds waits m drawn made r := by
  have further : ∀ k, (∀ j, made + 1 < j → j ≤ made + 1 + k → waits j = none) →
      ∀ j, made < j → j ≤ made + (k + 1) → waits j = none := by
    intro k others j behind upTo
    by_cases next : j = made + 1
    · rw [next]
      exact well
    · exact others j (by omega) (by omega)
  cases later with
  | @ended k is fault last m' moves others ending =>
    have count : made + 1 + k = made + (k + 1) := by omega
    rw [count, List.append_assoc]
    exact .ended (.succ step moves) (further k others) ending
  | @brokenOff k is j last m' reason moves others moved fails =>
    have count : made + 1 + k = made + (k + 1) := by omega
    rw [count] at fails ⊢
    rw [List.append_assoc drawn]
    exact .brokenOff (.succ step moves) (further k others) moved fails

theorem step_of_mem {i : Instruction} (proceeds : Proceeds waits m [] made r)
    (given : i ∈ r.instructions) :
    ∃ k is before after, m.Moves k is before ∧ before.step = (.moved (some i), after) := by
  cases proceeds with
  | ended moves well ending => exact moves.step_of_mem given
  | @brokenOff k is j last m' reason moves well step fails =>
    rcases List.mem_append.mp given with earlier | now
    · exact moves.step_of_mem earlier
    · rw [Option.mem_toList] at now
      cases now
      exact ⟨k, is, last, m', moves, step⟩

theorem step_of_failed {d : Diagnostic} (proceeds : Proceeds waits m drawn made r)
    (failed : r.error = some (.diagnosed d)) :
    ∃ k is before after, m.Moves k is before ∧ before.step = (.failed d, after) := by
  cases proceeds with
  | @ended k is fault last m' moves well ending =>
    cases fault with
    | none => cases failed
    | some d' =>
      cases failed
      exact ⟨k, is, last, m', moves, ending⟩
  | brokenOff => cases failed

theorem frames (proceeds : Proceeds waits m drawn made r) : r.machine.frames = [] := by
  cases proceeds with
  | ended moves well ending => exact frames_of_ending ending
  | brokenOff => rfl

theorem drawn_starts (proceeds : Proceeds waits m drawn made r) : drawn <+: r.instructions := by
  cases proceeds with
  | ended => exact List.prefix_append _ _
  | brokenOff => exact ⟨_, (List.append_assoc _ _ _).symm⟩

end Proceeds

theorem proceeds_finish {n : Nat} {m : Machine} (waits : Waits) (within : m.Within n)
    (drawn : List Instruction) (made : Nat) :
    Proceeds waits m drawn.reverse made (finish waits m within drawn made) := by
  obtain ⟨k, is, fault, final, last, moves, ending⟩ := exists_ends within
  have unused : ∀ made j, made < j → j ≤ made + 0 → waits j = none := by
    intro made j behind upTo
    omega
  -- The steps up to the end of an undisturbed run; a wait may break the run off at any of them.
  induction moves generalizing drawn made with
  | zero m =>
    have proceeds : Proceeds waits m drawn.reverse made _ := .ended (.zero m) (unused made) ending
    rw [List.append_nil] at proceeds
    rw [finish_of_ending waits within drawn made ending]
    exact proceeds
  | @succ m middle last i k is step later ih =>
    have reversed : (i.toList ++ drawn).reverse = drawn.reverse ++ i.toList := by
      cases i <;> simp
    cases wait : waits (made + 1) with
    | some reason =>
      have proceeds : Proceeds waits m drawn.reverse made _ :=
        .brokenOff (.zero m) (unused made) step wait
      rw [List.append_nil] at proceeds
      rw [finish_of_interrupted waits within drawn made step wait, reversed]
      exact proceeds
    | none =>
      rw [finish_of_moved waits within drawn made step wait]
      have rest := ih (step_within within step) (i.toList ++ drawn) (made + 1) ending
      rw [reversed] at rest
      exact .succ step wait rest

/-- Steps that move and whose waits go well can be taken before the rest of the run. -/
theorem finish_of_moves {n k : Nat} {m last : Machine} {is : List Instruction} {waits : Waits}
    (moves : m.Moves k is last) (within : m.Within n) (within' : last.Within n)
    (drawn : List Instruction) (made : Nat)
    (well : ∀ j, made < j → j ≤ made + k → waits j = none) :
    finish waits m within drawn made =
      finish waits last within' (is.reverse ++ drawn) (made + k) := by
  induction moves generalizing drawn made with
  | zero m => rfl
  | @succ m middle last i k is step later ih =>
    have now : waits (made + 1) = none := well _ (by omega) (by omega)
    rw [finish_of_moved waits within drawn made step now,
      ih (step_within within step) within' (i.toList ++ drawn) (made + 1)
        (fun j behind upTo => well j (by omega) (by omega))]
    have instructions : is.reverse ++ (i.toList ++ drawn) = (i.toList ++ is).reverse ++ drawn := by
      cases i <;> simp
    have count : made + 1 + k = made + (k + 1) := by omega
    rw [instructions, count]

theorem Proceeds.finish_eq {n : Nat} {m : Machine} {waits : Waits} {drawn : List Instruction}
    {made : Nat} {r : Run} (proceeds : Proceeds waits m drawn.reverse made r) (within : m.Within n) :
    finish waits m within drawn made = r := by
  cases proceeds with
  | @ended k is fault last m' moves well ending =>
    rw [finish_of_moves moves within (moves.within within) drawn made well,
      finish_of_ending waits _ _ _ ending, List.reverse_append, List.reverse_reverse]
  | @brokenOff k is i last m' reason moves well step fails =>
    have instructions : (i.toList ++ (is.reverse ++ drawn)).reverse =
        drawn.reverse ++ is ++ i.toList := by
      cases i <;> simp
    rw [finish_of_moves moves within (moves.within within) drawn made well,
      finish_of_interrupted waits _ _ _ step fails, instructions]

theorem steps_of_load {m loaded : Machine} {p : Program} (load : m.load p = .ok loaded) :
    loaded.steps = 0 := by
  rw [eq_of_load load]

theorem proceeds_run {m loaded : Machine} {src : Text} (load : m.load (Token.scan src) = .ok loaded)
    (waits : Waits) : Proceeds waits loaded [] 0 (m.run src waits) := by
  rw [run, runProgram_loaded load]
  exact proceeds_finish waits (load_within load) [] 0

theorem Proceeds.run_eq {m loaded : Machine} {src : Text} {waits : Waits} {r : Run}
    (proceeds : Proceeds waits loaded [] 0 r) (load : m.load (Token.scan src) = .ok loaded) :
    m.run src waits = r := by
  have fromStart : Proceeds waits loaded [].reverse 0 r := proceeds
  rw [run, runProgram_loaded load]
  exact fromStart.finish_eq (load_within load)

end Machine

end TurtleLogo
