import TurtleLogo.Proofs.Histories
import TurtleLogo.Proofs.Waiting

/-!
# Runs that are broken off

A run waits after every step that moves, and after no other. So a run whose `k`-th wait is the first
to fail has taken the first `k` steps of the run that nothing breaks off, unless that one is over
before: the heads it dispatched, its instructions and its tables are those of the longer run after `k`
steps. The last wait comes after the last step, and a program can be broken off when it has done all
that it does.
-/

set_option autoImplicit false

namespace TurtleLogo

structure Waits.FirstFails (waits : Waits) (k : Nat) (reason : Interruption) : Prop where
  positive : 1 ≤ k
  fails : waits k = some reason
  earlier : ∀ j, 1 ≤ j → j < k → waits j = none

theorem Waits.FirstFails.well {waits : Waits} {k n : Nat} {reason : Interruption}
    (first : waits.FirstFails k reason) (before : n < k) :
    ∀ j, 0 < j → j ≤ 0 + n → waits j = none := by
  intro j positive upTo
  exact first.earlier j positive (by omega)

theorem Waits.FirstFails.exists_succ {waits : Waits} {k : Nat} {reason : Interruption}
    (first : waits.FirstFails k reason) : ∃ j, k = j + 1 ∧ waits (0 + j + 1) = some reason := by
  obtain ⟨j, rfl⟩ := Nat.exists_eq_add_of_le' first.positive
  refine ⟨j, rfl, ?_⟩
  rw [Nat.zero_add]
  exact first.fails

namespace Machine

theorem head_of_moved {m m' : Machine} {i : Option Instruction} (step : m.step = (.moved i, m')) :
    ∃ head, (next? m.frames).toList.map Focus.head = [head] := by
  cases stepped_of_step step with
  | @opened head _ _ _ _ _ _ found _ _ => exact ⟨head, by simp [found]⟩
  | @carriedOut head _ _ _ _ _ found _ _ => exact ⟨head, by simp [found]⟩

theorem machine_of_done {m m' : Machine} (step : m.step = (.done, m')) :
    m' = { m with frames := [] } := by
  cases stepped_of_step step with
  | ended => rfl

theorem heads_of_brokenOff {n k : Nat} {m : Machine} {waits : Waits} {reason : Interruption}
    (within : m.Within n) {made : Nat} (well : ∀ j, made < j → j ≤ made + k → waits j = none)
    (fails : waits (made + k + 1) = some reason) :
    heads waits m within made = (heads Waits.never m within made).take (k + 1) := by
  obtain ⟨count, is, fault, final, last, moves, ending⟩ := exists_ends within
  -- The steps of the undisturbed run; the failing wait is either that of its first step or a later one.
  induction moves generalizing made k with
  | zero m =>
    rw [heads_of_ending waits within made ending, heads_of_ending Waits.never within made ending]
    refine (List.take_of_length_le ?_).symm
    cases next? m.frames <;> simp
  | @succ m middle last i count is step later ih =>
    obtain ⟨head, one⟩ := head_of_moved step
    rw [heads_of_moved Waits.never within made step rfl, one]
    cases k with
    | zero =>
      rw [heads_of_interrupted waits within made step fails, one]
      rfl
    | succ k =>
      have now : waits (made + 1) = none := well _ (by omega) (by omega)
      have fails' : waits (made + 1 + k + 1) = some reason := by
        rw [← fails]
        congr 1
        omega
      rw [heads_of_moved waits within made step now, one,
        ih (step_within within step) (fun j behind upTo => well j (by omega) (by omega)) fails'
          ending]
      rfl

section Runs

variable {m loaded : Machine} {src : Text} {n k : Nat} {waits : Waits} {reason : Interruption}

theorem headsOf_of_firstFails (load : m.load (Token.scan src) = .ok loaded)
    (first : waits.FirstFails k reason) :
    m.headsOf src waits = (m.headsOf src Waits.never).take k := by
  obtain ⟨j, rfl, fails⟩ := first.exists_succ
  rw [headsOf_loaded load, headsOf_loaded load]
  exact heads_of_brokenOff _ (first.well (Nat.lt_succ_self j)) fails

variable {is : List Instruction} {fault : Option Diagnostic} {final : Machine}

theorem run_of_late_failure (load : m.load (Token.scan src) = .ok loaded)
    (ends : loaded.Ends n is fault final) (first : waits.FirstFails k reason) (late : n < k) :
    m.run src waits = ⟨final, is, n, fault.map .diagnosed⟩ := by
  obtain ⟨last, moves, ending⟩ := ends
  have proceeds : Proceeds waits loaded [] 0 _ := .ended moves (first.well late) ending
  rw [List.nil_append, Nat.zero_add] at proceeds
  exact proceeds.run_eq load

/-- A failing wait cuts the run behind the step that it comes after. -/
theorem run_of_early_failure (load : m.load (Token.scan src) = .ok loaded)
    (ends : loaded.Ends n is fault final) (first : waits.FirstFails k reason) (early : k ≤ n) :
    ∃ reached cut rest, loaded.Moves k cut reached ∧ reached.Ends (n - k) rest fault final ∧
      is = cut ++ rest ∧
      m.run src waits =
        ⟨{ reached with frames := [] }, cut, k, some (.interrupted k reason)⟩ := by
  obtain ⟨last, moves, ending⟩ := ends
  obtain ⟨j, rfl, fails⟩ := first.exists_succ
  have parts : n = j + (n - (j + 1) + 1) := by omega
  rw [parts] at moves
  obtain ⟨before, middle, others, here, onward, rfl⟩ := moves.split
  cases onward with
  | @succ _ reached _ i _ rest step later =>
    have reported : RunError.interrupted reached.steps reason = .interrupted (j + 1) reason := by
      rw [(here.snoc step).steps, steps_of_load load, Nat.zero_add]
    have well := first.well (Nat.lt_succ_self j)
    have proceeds : Proceeds waits loaded [] 0 _ := .brokenOff here well step fails
    rw [List.nil_append, Nat.zero_add, reported] at proceeds
    refine ⟨reached, before ++ i.toList, rest, here.snoc step, ⟨last, later, ending⟩, ?_,
      proceeds.run_eq load⟩
    rw [List.append_assoc]

end Runs

/-- Runs that are broken off do what the whole run does first. A text that does not load runs the same
with all waits. One that loads takes `n` steps that move before its run ends, and waits `n` times. If
wait number `k` is the first to fail, then the first `k` heads are dispatched, or all if there are not
so many. For `n < k` the run is the whole one. Otherwise it stops where the whole run is after `k`
steps, with the instructions and tables of that moment and no open frame, and reports the failure
after `k` steps; for `k = n` it does so although a successful program is through. -/
theorem interrupted_runs_are_prefixes (m : Machine) (src : Text) :
    (∀ d, m.load (Token.scan src) = .error d →
      ∀ waits, m.run src waits = ⟨m, [], 0, some (.diagnosed d)⟩) ∧
    ∀ loaded, m.load (Token.scan src) = .ok loaded →
      ∃ n is fault final, loaded.Ends n is fault final ∧
        m.run src Waits.never = ⟨final, is, n, fault.map .diagnosed⟩ ∧
        (m.headsOf src Waits.never).length = n + fault.toList.length ∧
        ∀ waits k reason, Waits.FirstFails waits k reason →
          m.headsOf src waits = (m.headsOf src Waits.never).take k ∧
          (n < k → m.run src waits = m.run src Waits.never) ∧
          (k ≤ n → ∃ reached cut rest, loaded.Moves k cut reached ∧
            reached.Ends (n - k) rest fault final ∧ is = cut ++ rest ∧
            m.run src waits =
              ⟨{ reached with frames := [] }, cut, k, some (.interrupted k reason)⟩) ∧
          (k = n → fault = none →
            m.run src waits = ⟨final, is, n, some (.interrupted n reason)⟩) := by
  refine ⟨?_, ?_⟩
  · intro d refused waits
    rw [run, runProgram_refused refused]
  · intro loaded load
    obtain ⟨n, is, fault, final, ends⟩ := exists_ends (load_within load)
    have whole : m.run src Waits.never = ⟨final, is, n, fault.map .diagnosed⟩ :=
      runProgram_never load ends
    have dispatched : (m.headsOf src Waits.never).length = n + fault.toList.length := by
      rw [← steps_run_of_balanced m (balanced_of_load load), whole, ends.steps, steps_of_load load,
        Nat.zero_add]
    refine ⟨n, is, fault, final, ends, whole, dispatched, ?_⟩
    intro waits k reason first
    refine ⟨headsOf_of_firstFails load first, ?_, run_of_early_failure load ends first, ?_⟩
    · intro late
      rw [whole]
      exact run_of_late_failure load ends first late
    · rintro rfl rfl
      obtain ⟨reached, cut, rest, moves, later, parts, broken⟩ :=
        run_of_early_failure load ends first (Nat.le_refl k)
      -- No step is left but the one that finds nothing to do.
      rw [Nat.sub_self] at later
      obtain ⟨last, idle, ending⟩ := later
      cases idle with
      | zero =>
        rw [broken, parts, List.append_nil, machine_of_done ending]

/-- Two calls of a procedure make seven steps. The run can be broken off inside the first call and
behind the last step; an eighth wait is not made. -/
theorem interrupted_runs_are_prefixes_calls :
    let src := utf8 "DEF A PD PU END A A"
    let stop (k : Nat) : Waits := fun j => if j = k then some .canceled else none
    let whole := (fresh 3).run src Waits.never
    (∃ loaded reached cut, (fresh 3).load (Token.scan src) = .ok loaded ∧
      loaded.Moves 4 cut reached ∧
      (fresh 3).run src (stop 4) =
        ⟨{ reached with frames := [] }, cut, 4, some (.interrupted 4 .canceled)⟩) ∧
    (fresh 3).run src (stop 7) = { whole with error := some (.interrupted 7 .canceled) } ∧
    (fresh 3).run src (stop 8) = whole := by
  intro src stop whole
  have balanced : Program.fault? (Token.scan src) = none := by decide +kernel
  have counts : ((fresh 3).run (utf8 "DEF A PD PU END A A") Waits.never).waits = 7 ∧
      ((fresh 3).run (utf8 "DEF A PD PU END A A") Waits.never).error = none := by
    constructor <;> cbv
  have load := load_of_balanced (fresh 3) balanced
  obtain ⟨n, is, fault, final, -, ran, -, cuts⟩ :=
    (interrupted_runs_are_prefixes (fresh 3) src).2 _ load
  have first : ∀ k, 1 ≤ k → (stop k).FirstFails k .canceled := by
    intro k positive
    refine ⟨positive, if_pos rfl, ?_⟩
    intro j _ before
    exact if_neg (by omega)
  have same : whole = ⟨final, is, n, fault.map .diagnosed⟩ := ran
  rw [ran] at counts
  obtain ⟨rfl, success⟩ := counts
  have ends : fault = none := Option.map_eq_none_iff.mp success
  obtain ⟨-, -, cut, -⟩ := cuts (stop 4) 4 .canceled (first 4 (by omega))
  obtain ⟨-, -, -, through⟩ := cuts (stop 7) 7 .canceled (first 7 (by omega))
  obtain ⟨-, late, -⟩ := cuts (stop 8) 8 .canceled (first 8 (by omega))
  refine ⟨?_, ?_, late (by omega)⟩
  · obtain ⟨reached, before, _, moves, _, _, broken⟩ := cut (by omega)
    exact ⟨_, reached, before, load, moves, broken⟩
  · rw [same, through rfl ends]

end Machine

end TurtleLogo
