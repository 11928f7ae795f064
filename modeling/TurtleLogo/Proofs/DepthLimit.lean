import TurtleLogo.Proofs.Interruption
import TurtleLogo.Proofs.Layout

/-!
# Room for more frames

How many frames may be open matters to a step only if it would open one too many. So under a higher
limit a machine takes the same steps as long as it is not stopped by the lower one, and a run that the
lower limit does not stop is the same run.
-/

set_option autoImplicit false

namespace TurtleLogo

theorem Program.structural_of_faultFrom {depth : Nat} {p : Program} {d : Diagnostic}
    (fault : faultFrom depth p = some d) : d.kind = .structural := by
  fun_induction faultFrom depth p with
  | case1 => cases fault
  | case2 =>
    cases fault
    rfl
  | case4 =>
    cases fault
    rfl
  | case3 _ _ _ _ ih | case5 _ _ _ _ ih | case6 _ _ _ _ _ ih => exact ih fault

namespace Machine

def limited (m : Machine) (maxDepth : Int) : Machine :=
  { m with maxDepth := maxDepth }

theorem limit_limited_le (m : Machine) {low high : Int} (positive : 1 ≤ low) (le : low ≤ high) :
    (m.limited low).limit ≤ (m.limited high).limit := by
  have sameLow : (m.limited low).limit = low.toNat := if_neg (by simp only [limited]; omega)
  have sameHigh : (m.limited high).limit = high.toNat := if_neg (by simp only [limited]; omega)
  rw [sameLow, sameHigh]
  omega

section Steps

variable {m m' : Machine} {high : Int}

/-- A step under a higher limit does the same, unless the lower limit stops it. -/
theorem step_limited {progress : Progress} (room : m.limit ≤ (m.limited high).limit)
    (step : m.step = (progress, m'))
    (unstopped : ∀ d, progress = .failed d → d.kind ≠ .recursionLimit) :
    (m.limited high).step = (progress, m'.limited high) := by
  have taken : ∀ {focus : Focus}, next? m.frames = some focus →
      next? (m.limited high).frames = some focus := fun found => found
  have same : (m.limited high).tables = m.tables := rfl
  cases stepped_of_step step with
  | ended exhausted =>
    have exhausted' : next? (m.limited high).frames = none := exhausted
    exact step_of_exhausted exhausted'
  | refused found interpreted =>
    rw [← same] at interpreted
    rw [step_of_refused (taken found) interpreted]
    rfl
  | blocked found interpreted full =>
    refine absurd ?_ (unstopped _ rfl)
    rw [Diagnostic.kind, cause_tagged]
    rfl
  | @opened head rest after body f outer again found interpreted open' =>
    rw [← same] at interpreted
    rw [step_of_interpreted (taken found) interpreted]
    refine if_neg ?_
    simp only [List.length_cons]
    omega
  | @carriedOut head rest after f outer effect found interpreted plain =>
    rw [← same] at interpreted
    rw [step_of_interpreted (taken found) interpreted]
    cases effect with
    | enter => cases plain
    | nothing | draw | assign | define => rfl

theorem moved_limited {i : Option Instruction} (room : m.limit ≤ (m.limited high).limit)
    (step : m.step = (.moved i, m')) :
    (m.limited high).step = (.moved i, m'.limited high) ∧
      m'.limit ≤ (m'.limited high).limit := by
  refine ⟨step_limited room step ?_, ?_⟩
  · intro d failed
    cases failed
  · rw [step_limit step]
    exact room

theorem Moves.limited {k : Nat} {is : List Instruction} (moves : m.Moves k is m')
    (room : m.limit ≤ (m.limited high).limit) :
    (m.limited high).Moves k is (m'.limited high) ∧ m'.limit ≤ (m'.limited high).limit := by
  induction moves with
  | zero m => exact ⟨.zero _, room⟩
  | succ step later ih =>
    obtain ⟨step', room'⟩ := moved_limited room step
    obtain ⟨later', room''⟩ := ih room'
    exact ⟨.succ step' later', room''⟩

end Steps

/-! ## Whole runs -/

section Runs

variable {m loaded : Machine} {high : Int} {waits : Waits}

theorem load_limited (m : Machine) (high : Int) (p : Program) :
    (m.limited high).load p = (m.load p).map fun loaded => loaded.limited high := by
  unfold load
  cases p.fault? <;> rfl

theorem load_limited_of_load {p : Program} (load : m.load p = .ok loaded) :
    (m.limited high).load p = .ok (loaded.limited high) := by
  rw [load_limited, load]
  rfl

theorem limit_of_load {p : Program} (load : m.load p = .ok loaded) : loaded.limit = m.limit := by
  rw [eq_of_load load]
  rfl

theorem Proceeds.limited {drawn : List Instruction} {made : Nat} {r : Run}
    (proceeds : Proceeds waits m drawn made r) (room : m.limit ≤ (m.limited high).limit)
    (unstopped : ∀ d, r.error = some (.diagnosed d) → d.kind ≠ .recursionLimit) :
    Proceeds waits (m.limited high) drawn made
      { r with machine := r.machine.limited high } := by
  cases proceeds with
  | @ended k is fault last m' moves well ending =>
    obtain ⟨moves', room'⟩ := moves.limited room
    refine .ended moves' well (step_limited room' ending ?_)
    intro d failed
    cases fault with
    | none => cases failed
    | some d' =>
      cases failed
      exact unstopped d rfl
  | brokenOff moves well step fails =>
    obtain ⟨moves', room'⟩ := moves.limited room
    exact .brokenOff moves' well (moved_limited room' step).1 fails

theorem heads_limited {n n' : Nat} (within : m.Within n) (within' : (m.limited high).Within n')
    (room : m.limit ≤ (m.limited high).limit) (made : Nat) :
    heads waits m within made <+: heads waits (m.limited high) within' made := by
  obtain ⟨k, is, fault, final, last, moves, ending⟩ := exists_ends within
  induction moves generalizing made with
  | zero m =>
    -- The last head of the lower limit is the next one of the higher.
    rw [heads_of_ending waits within made ending, heads]
    exact List.prefix_append _ _
  | @succ m middle last i k is step later ih =>
    obtain ⟨step', room'⟩ := moved_limited room step
    cases wait : waits (made + 1) with
    | none =>
      rw [heads_of_moved waits within made step wait, heads_of_moved waits within' made step' wait]
      exact (List.prefix_append_right_inj _).mpr (ih _ _ room' _ ending)
    | some reason =>
      rw [heads_of_interrupted waits within made step wait,
        heads_of_interrupted waits within' made step' wait]
      exact List.prefix_refl _

theorem headsOf_limited {src : Text} (load : m.load (Token.scan src) = .ok loaded)
    (room : m.limit ≤ (m.limited high).limit) :
    m.headsOf src waits <+: (m.limited high).headsOf src waits := by
  rw [headsOf_loaded load, headsOf_loaded (load_limited_of_load load)]
  refine heads_limited _ _ ?_ 0
  rw [limit_of_load load]
  exact room

/-- A run that the limit does not stop is the same under a higher one. -/
theorem run_limited {src : Text} (room : m.limit ≤ (m.limited high).limit)
    (unstopped : ∀ d, (m.run src waits).error = some (.diagnosed d) → d.kind ≠ .recursionLimit) :
    (m.limited high).run src waits =
      { m.run src waits with machine := (m.run src waits).machine.limited high } := by
  cases load : m.load (Token.scan src) with
  | error d =>
    have refused : (m.limited high).load (Token.scan src) = .error d := by
      rw [load_limited, load]
      rfl
    rw [run, run, runProgram_refused load, runProgram_refused refused]
  | ok loaded =>
    rw [← limit_of_load load] at room
    exact ((proceeds_run load waits).limited room unstopped).run_eq (load_limited_of_load load)

theorem headsOf_unstopped {src : Text} (room : m.limit ≤ (m.limited high).limit)
    (unstopped : ∀ d, (m.run src waits).error = some (.diagnosed d) → d.kind ≠ .recursionLimit) :
    (m.limited high).headsOf src waits = m.headsOf src waits := by
  by_cases balanced : Program.fault? (Token.scan src) = none
  · have starts : m.headsOf src waits <+: (m.limited high).headsOf src waits :=
      headsOf_limited (load_of_balanced m balanced) room
    have steps := steps_run_of_balanced m balanced waits
    have steps' := steps_run_of_balanced (m.limited high) balanced waits
    rw [run_limited room unstopped] at steps'
    exact (starts.eq_of_length (steps.symm.trans steps')).symm
  · rw [headsOf_of_unbalanced m balanced, headsOf_of_unbalanced _ balanced]

theorem instructions_start {k : Nat} {is : List Instruction} {last : Machine} {src : Text}
    (load : m.load (Token.scan src) = .ok loaded) (moves : loaded.Moves k is last)
    (well : ∀ j, 0 < j → j ≤ 0 + k → waits j = none) :
    is <+: (m.run src waits).instructions := by
  have within := moves.within (load_within load)
  have starts := (proceeds_finish waits within (is.reverse ++ []) (0 + k)).drawn_starts
  rw [run, runProgram_loaded load, finish_of_moves moves _ within [] 0 well]
  rw [List.reverse_append, List.reverse_reverse] at starts
  exact starts

/-- Up to the head that fails, a run goes the same way under a higher limit. -/
theorem failed_run_limited {src : Text} {d : Diagnostic}
    (load : m.load (Token.scan src) = .ok loaded) (room : m.limit ≤ (m.limited high).limit)
    (failed : (m.run src waits).error = some (.diagnosed d)) :
    ∃ k reached, (m.run src waits).machine.steps = k + 1 ∧
      loaded.Moves k (m.run src waits).instructions reached ∧
      (loaded.limited high).Moves k (m.run src waits).instructions (reached.limited high) ∧
      (m.run src waits).machine.tables = reached.tables ∧
      (m.run src waits).instructions <+: ((m.limited high).run src waits).instructions := by
  have proceeds := proceeds_run load waits
  rw [← limit_of_load load] at room
  generalize m.run src waits = r at proceeds failed
  cases proceeds with
  | brokenOff => cases failed
  | @ended k is fault last m' moves well ending =>
    cases fault with
    | none => cases failed
    | some d =>
      obtain ⟨moves', -⟩ := moves.limited room
      have ends : loaded.Ends k is (some d) m' := ⟨last, moves, ending⟩
      have steps : m'.steps = k + 1 := by
        rw [ends.steps, steps_of_load load, Nat.zero_add]
        rfl
      have tables : m'.tables = last.tables := by
        cases stepped_of_step ending <;> rfl
      exact ⟨k, last, steps, moves, moves', tables,
        instructions_start (load_limited_of_load load) moves' well⟩

end Runs

/-- Raising the limit changes nothing but what happens where the limit was met. If the run under the
lower limit does not end with the diagnostic of that limit, then the run under the higher one
dispatches the same heads and is the same in all respects. Otherwise it has dispatched `k` heads and
failed at the next; the higher limit leads through the same `k` steps, with the same instructions and
to the same tables and frames. -/
theorem higher_limits_keep_runs (m : Machine) (src : Text) (waits : Waits) {low high : Int}
    (positive : 1 ≤ low) (le : low ≤ high) :
    let r := (m.limited low).run src waits
    let r' := (m.limited high).run src waits
    let ts := (m.limited low).headsOf src waits
    let ts' := (m.limited high).headsOf src waits
    ((∀ d, r.error = some (.diagnosed d) → d.kind ≠ .recursionLimit) →
      ts' = ts ∧ r' = { r with machine := r.machine.limited high }) ∧
    ∀ d, r.error = some (.diagnosed d) → d.kind = .recursionLimit →
      ∃ k loaded reached, ts.length = k + 1 ∧ r.machine.steps = k + 1 ∧
        (m.limited low).load (Token.scan src) = .ok loaded ∧
        (m.limited high).load (Token.scan src) = .ok (loaded.limited high) ∧
        loaded.Moves k r.instructions reached ∧
        (loaded.limited high).Moves k r.instructions (reached.limited high) ∧
        r.machine.tables = reached.tables ∧
        ts <+: ts' ∧ r.instructions <+: r'.instructions := by
  intro r r' ts ts'
  have room : (m.limited low).limit ≤ ((m.limited low).limited high).limit :=
    m.limit_limited_le positive le
  refine ⟨?_, ?_⟩
  · intro unstopped
    exact ⟨headsOf_unstopped room unstopped, run_limited room unstopped⟩
  · intro d failed stopped
    cases fault : Program.fault? (Token.scan src) with
    | some d' =>
      -- Unbalanced brackets are no matter of depth.
      have refused : r = ⟨m.limited low, [], 0, some (.diagnosed d')⟩ := run_of_fault fault waits
      rw [refused] at failed
      cases failed
      rw [Program.structural_of_faultFrom fault] at stopped
      cases stopped
    | none =>
      have load := load_of_balanced (m.limited low) fault
      have load' : ((m.limited low).limited high).load (Token.scan src) = _ :=
        load_limited_of_load load
      obtain ⟨k, reached, steps, moves, moves', tables, starts⟩ :=
        failed_run_limited load room failed
      have counted : ts.length = k + 1 := (steps_run_of_balanced _ fault waits).symm.trans steps
      exact ⟨k, _, reached, counted, steps, load, load', moves, moves', tables,
        headsOf_limited load room, starts⟩

/-- A procedure that calls itself meets the limit of three frames, and goes the same way up to there
if there may be five; one that does not meet it runs the same with nine. -/
theorem higher_limits_keep_runs_recursion :
    let endless := utf8 "DEF A PU A END A"
    let flat := utf8 "DEF A PU END A"
    let under (limit : Int) (src : Text) : Run := ((fresh 0).limited limit).run src Waits.never
    (under 3 endless).error = some (.diagnosed ⟨.tooDeep 3, 1⟩) ∧
    (∃ loaded reached : Machine,
      loaded.Moves 5 (under 3 endless).instructions reached ∧
      (loaded.limited 5).Moves 5 (under 3 endless).instructions (reached.limited 5) ∧
      (under 3 endless).instructions <+: (under 5 endless).instructions) ∧
    (under 2 flat).error = none ∧
    under 9 flat = { under 2 flat with machine := (under 2 flat).machine.limited 9 } := by
  intro endless flat under
  have tooDeep : (((fresh 0).limited 3).run (utf8 "DEF A PU A END A") Waits.never).error =
      some (.diagnosed ⟨.tooDeep 3, 1⟩) := by cbv
  have steps : (((fresh 0).limited 3).run (utf8 "DEF A PU A END A") Waits.never).machine.steps =
      6 := by cbv
  have success : (((fresh 0).limited 2).run (utf8 "DEF A PU END A") Waits.never).error = none := by
    cbv
  have raised := higher_limits_keep_runs (fresh 0) endless Waits.never
    (by decide : (1 : Int) ≤ 3) (by decide : (3 : Int) ≤ 5)
  have unmet := higher_limits_keep_runs (fresh 0) flat Waits.never
    (by decide : (1 : Int) ≤ 2) (by decide : (2 : Int) ≤ 9)
  refine ⟨tooDeep, ?_, success, ?_⟩
  · obtain ⟨k, loaded, reached, _, counted, _, _, moves, moves', _, _, starts⟩ :=
      raised.2 _ tooDeep rfl
    obtain rfl : k = 5 := by
      have six := counted.symm.trans steps
      omega
    exact ⟨loaded, reached, moves, moves', starts⟩
  · refine (unmet.1 ?_).2
    intro d failed
    rw [success] at failed
    cases failed

end Machine

end TurtleLogo
