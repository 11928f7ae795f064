import TurtleLogo.Proofs.Termination

/-!
# Two runs in step

Two machines run in step when each of them moves, fails or comes to its end as the other does, and
what relates them is related again after the step. Then the same waits leave them related: the runs
give the same instructions, make as many waits, and break off or fail at the same place. What the
relation is, and when two diagnostics count as the same, is left open here.
-/

set_option autoImplicit false

namespace TurtleLogo

inductive RunError.Alike (same : Diagnostic → Diagnostic → Prop) : RunError → RunError → Prop
  | diagnosed {d d' : Diagnostic} (faults : same d d') : Alike same (.diagnosed d) (.diagnosed d')
  | interrupted (steps : Nat) (reason : Interruption) :
      Alike same (.interrupted steps reason) (.interrupted steps reason)

structure Run.Alike (related : Machine → Machine → Prop) (same : Diagnostic → Diagnostic → Prop)
    (r r' : Run) : Prop where
  machine : related r.machine r'.machine
  instructions : r.instructions = r'.instructions
  waits : r.waits = r'.waits
  error : Option.Rel (RunError.Alike same) r.error r'.error

theorem RunError.eq_of_alike {e e' : RunError} (alike : RunError.Alike Eq e e') : e = e' := by
  cases alike with
  | diagnosed same => rw [same]
  | interrupted => rfl

theorem Run.error_eq_of_alike {related : Machine → Machine → Prop} {r r' : Run}
    (alike : Run.Alike related Eq r r') : r.error = r'.error := by
  have errors := alike.error
  generalize r.error = e at errors
  generalize r'.error = e' at errors
  cases errors with
  | none => rfl
  | some same => rw [RunError.eq_of_alike same]

namespace Machine

inductive Progress.Alike (same : Diagnostic → Diagnostic → Prop) : Progress → Progress → Prop
  | done : Alike same .done .done
  | failed {d d' : Diagnostic} (faults : same d d') : Alike same (.failed d) (.failed d')
  | moved (i : Option Instruction) : Alike same (.moved i) (.moved i)

/-- What makes related machines run in step. -/
structure Lockstep (related : Machine → Machine → Prop) (same : Diagnostic → Diagnostic → Prop) :
    Prop where
  step : ∀ {m m' : Machine}, related m m' →
    Progress.Alike same m.step.1 m'.step.1 ∧ related m.step.2 m'.step.2
  closed : ∀ {m m' : Machine}, related m m' →
    related { m with frames := [] } { m' with frames := [] }
  steps : ∀ {m m' : Machine}, related m m' → m.steps = m'.steps

namespace Lockstep

variable {related : Machine → Machine → Prop} {same : Diagnostic → Diagnostic → Prop}

theorem moved (lockstep : Lockstep related same) {m m' middle : Machine} {i : Option Instruction}
    (pair : related m m') (step : m.step = (.moved i, middle)) :
    ∃ middle', m'.step = (.moved i, middle') ∧ related middle middle' := by
  obtain ⟨alike, later⟩ := lockstep.step pair
  rw [step] at alike later
  refine ⟨m'.step.2, ?_, later⟩
  generalize reported : m'.step.1 = progress at alike
  cases alike with
  | moved => rw [← reported]

theorem ending (lockstep : Lockstep related same) {m m' final : Machine} {fault : Option Diagnostic}
    (pair : related m m') (step : m.step = (.ending fault, final)) :
    ∃ fault' final', m'.step = (.ending fault', final') ∧ related final final' ∧
      Option.Rel same fault fault' := by
  obtain ⟨alike, later⟩ := lockstep.step pair
  rw [step] at alike later
  generalize reported : m'.step.1 = progress at alike
  cases fault with
  | none =>
    cases alike with
    | done => exact ⟨none, m'.step.2, by rw [Progress.ending, ← reported], later, .none⟩
  | some d =>
    cases alike with
    | @failed _ d' faults =>
      exact ⟨some d', m'.step.2, by rw [Progress.ending, ← reported], later, .some faults⟩

/-- Related machines are still related when they have run to their ends, or as far as the waits let
them. -/
theorem finish (lockstep : Lockstep related same) {n n' : Nat} {m m' : Machine} (pair : related m m')
    (within : m.Within n) (within' : m'.Within n') (waits : Waits) (drawn : List Instruction)
    (made : Nat) :
    Run.Alike related same (m.finish waits within drawn made)
      (m'.finish waits within' drawn made) := by
  obtain ⟨k, is, fault, final, last, moves, end_step⟩ := exists_ends within
  -- The steps of the first machine up to its end carry the second one along.
  induction moves generalizing m' drawn made with
  | zero m =>
    obtain ⟨fault', final', end_step', later, faults⟩ := lockstep.ending pair end_step
    rw [finish_of_ending waits within drawn made end_step,
      finish_of_ending waits within' drawn made end_step']
    refine ⟨later, rfl, rfl, ?_⟩
    cases faults with
    | none => exact .none
    | some faults => exact .some (.diagnosed faults)
  | @succ m middle last i k is step rest ih =>
    obtain ⟨middle', step', later⟩ := lockstep.moved pair step
    cases wait : waits (made + 1) with
    | none =>
      rw [finish_of_moved waits within drawn made step wait,
        finish_of_moved waits within' drawn made step' wait]
      exact ih later _ _ _ _ end_step
    | some reason =>
      rw [finish_of_interrupted waits within drawn made step wait,
        finish_of_interrupted waits within' drawn made step' wait]
      refine ⟨lockstep.closed later, rfl, rfl, .some ?_⟩
      rw [lockstep.steps later]
      exact .interrupted _ _

theorem runProgram (lockstep : Lockstep related same) {m m' loaded loaded' : Machine}
    {p p' : Program} (load : m.load p = .ok loaded) (load' : m'.load p' = .ok loaded')
    (pair : related loaded loaded') (waits : Waits) :
    Run.Alike related same (m.runProgram p waits) (m'.runProgram p' waits) := by
  rw [runProgram_loaded load, runProgram_loaded load']
  exact lockstep.finish pair _ _ waits [] 0

end Lockstep

/-! ## A machine in step with itself -/

theorem Progress.alike_refl (progress : Progress) : Progress.Alike Eq progress progress := by
  cases progress with
  | done => exact .done
  | failed d => exact .failed rfl
  | moved i => exact .moved i

/-- What a step keeps, and the closing of all frames, a run keeps. -/
theorem run_keeps (kept : Machine → Prop) (step : ∀ m, kept m → kept m.step.2)
    (closed : ∀ m, kept m → kept { m with frames := [] }) {m : Machine} {src : Text}
    (load : ∀ loaded, m.load (Token.scan src) = .ok loaded → kept loaded) (before : kept m)
    (waits : Waits) : kept (m.run src waits).machine := by
  have lockstep : Lockstep (fun m m' => m = m' ∧ kept m) Eq := by
    refine ⟨?_, ?_, ?_⟩
    · rintro m m' ⟨rfl, held⟩
      exact ⟨Progress.alike_refl _, rfl, step m held⟩
    · rintro m m' ⟨rfl, held⟩
      exact ⟨rfl, closed m held⟩
    · rintro m m' ⟨rfl, _⟩
      rfl
  unfold run
  cases loading : m.load (Token.scan src) with
  | error d =>
    rw [runProgram_refused loading]
    exact before
  | ok loaded =>
    exact (lockstep.runProgram loading loading ⟨rfl, load loaded loading⟩ waits).machine.2

/-! ## One step -/

section Equations

variable {m : Machine} {head : Token} {rest : Program} {f : Frame} {outer : List Frame}

theorem step_of_exhausted (exhausted : next? m.frames = none) :
    m.step = (.done, { m with frames := [] }) := by
  rw [step, exhausted]

theorem step_of_refused {d : Diagnostic} (found : next? m.frames = some ⟨head, rest, f, outer⟩)
    (interpreted : interpret m.tables head rest = .error d) :
    m.step = m.abort head (f :: outer) d := by
  rw [step, found]
  simp only [interpreted]

theorem step_of_interpreted {effect : Effect} {after : Program}
    (found : next? m.frames = some ⟨head, rest, f, outer⟩)
    (interpreted : interpret m.tables head rest = .ok (effect, after)) :
    m.step = m.perform head ({ f with rest := after } :: outer) effect := by
  rw [step, found]
  simp only [interpreted]

end Equations

end Machine

end TurtleLogo
