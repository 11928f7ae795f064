import TurtleLogo.Proofs.Evaluation
import TurtleLogo.Proofs.Lockstep
import TurtleLogo.Proofs.Sharing

/-!
# What calls leave behind

A session is used by one call after another. It is free again after each, and draws on the canvas and
within the depth it was set up with. Its machine counts the heads that a program dispatches, from the
moment the program is loaded. A text with unbalanced brackets is never loaded, so the count that is
reported for it is left over from an earlier call.
-/

set_option autoImplicit false

namespace TurtleLogo

namespace Machine

/-! ## Heads and their number -/

/-- The heads that a machine dispatches until its run ends, fails or is broken off; `made` waits were
made before. -/
def heads {n : Nat} (waits : Waits) (m : Machine) (within : m.Within n) (made : Nat) : List Token :=
  (next? m.frames).toList.map Focus.head ++
    match stepped : m.step with
    | (.moved _, m') =>
      match waits (made + 1) with
      | none => heads waits m' (step_within within stepped) (made + 1)
      | some _ => []
    | _ => []
termination_by work n m.frames
decreasing_by exact step_descends within.depth_le stepped

def headsOf (m : Machine) (src : Text) (waits : Waits) : List Token :=
  match loaded : m.load (Token.scan src) with
  | .error _ => []
  | .ok m' => heads waits m' (load_within loaded) 0

/-- A step counts the head it dispatches, if there is one. -/
theorem steps_of_step {m m' : Machine} {progress : Progress} (step : m.step = (progress, m')) :
    m'.steps = m.steps + ((next? m.frames).toList.map Focus.head).length := by
  cases stepped_of_step step with
  | ended exhausted => simp [exhausted]
  | refused found _ | blocked found _ _ | opened found _ _ | carriedOut found _ _ => simp [found]

section Equations

variable {n : Nat} {m m' : Machine} (waits : Waits) (within : m.Within n) (made : Nat)

theorem heads_of_ending {fault : Option Diagnostic} (step : m.step = (.ending fault, m')) :
    heads waits m within made = (next? m.frames).toList.map Focus.head := by
  rw [heads]
  cases fault with
  | none => split <;> simp_all [Progress.ending]
  | some d => split <;> simp_all [Progress.ending]

theorem heads_of_moved {i : Option Instruction} (step : m.step = (.moved i, m'))
    (well : waits (made + 1) = none) :
    heads waits m within made =
      (next? m.frames).toList.map Focus.head ++
        heads waits m' (step_within within step) (made + 1) := by
  rw [heads]
  split
  · rename_i j later stepped
    rw [step] at stepped
    cases stepped
    simp [well]
  · rename_i other
    exact absurd step (other i m')

theorem heads_of_interrupted {i : Option Instruction} {reason : Interruption}
    (step : m.step = (.moved i, m')) (fails : waits (made + 1) = some reason) :
    heads waits m within made = (next? m.frames).toList.map Focus.head := by
  rw [heads]
  split <;> simp_all

end Equations

/-- A run adds the heads it dispatches to the count. -/
theorem steps_finish {n : Nat} {m : Machine} (waits : Waits) (within : m.Within n)
    (drawn : List Instruction) (made : Nat) :
    (finish waits m within drawn made).machine.steps =
      m.steps + (heads waits m within made).length := by
  obtain ⟨k, is, fault, final, last, moves, ending⟩ := exists_ends within
  -- The steps up to the end of an undisturbed run; a wait may break the run off at any of them.
  induction moves generalizing drawn made with
  | zero m =>
    rw [finish_of_ending waits within drawn made ending, heads_of_ending waits within made ending]
    exact steps_of_step ending
  | @succ m middle last i k is step later ih =>
    have counted := steps_of_step step
    cases wait : waits (made + 1) with
    | none =>
      rw [finish_of_moved waits within drawn made step wait,
        heads_of_moved waits within made step wait, List.length_append, ih _ _ _ ending, counted,
        Nat.add_assoc]
    | some reason =>
      rw [finish_of_interrupted waits within drawn made step wait,
        heads_of_interrupted waits within made step wait]
      exact counted

theorem headsOf_loaded {m loaded : Machine} {src : Text} (load : m.load (Token.scan src) = .ok loaded)
    (waits : Waits) : m.headsOf src waits = heads waits loaded (load_within load) 0 := by
  unfold headsOf
  split
  · rename_i d refused
    rw [load] at refused
    cases refused
  · rename_i loaded' load'
    rw [load] at load'
    cases load'
    rfl

theorem headsOf_of_unbalanced (m : Machine) {src : Text}
    (unbalanced : Program.fault? (Token.scan src) ≠ none) (waits : Waits) :
    m.headsOf src waits = [] := by
  unfold headsOf
  split
  · rfl
  · rename_i loaded load
    exact absurd (balanced_of_load load) unbalanced

theorem steps_run_of_balanced (m : Machine) {src : Text}
    (balanced : Program.fault? (Token.scan src) = none) (waits : Waits) :
    (m.run src waits).machine.steps = (m.headsOf src waits).length := by
  have load := load_of_balanced m balanced
  rw [run, runProgram_loaded load, steps_finish, headsOf_loaded load]
  exact Nat.zero_add _

theorem machine_run_of_unbalanced (m : Machine) {src : Text}
    (unbalanced : Program.fault? (Token.scan src) ≠ none) (waits : Waits) :
    (m.run src waits).machine = m := by
  obtain ⟨d, fault⟩ := Option.ne_none_iff_exists'.mp unbalanced
  rw [run_of_fault fault]

theorem maxDepth_run (m : Machine) (src : Text) (waits : Waits) :
    (m.run src waits).machine.maxDepth = m.maxDepth := by
  refine run_keeps (fun later => later.maxDepth = m.maxDepth) ?_ ?_ ?_ rfl waits
  · intro later same
    exact (stepped_maxDepth (step_stepped later)).trans same
  · intro later same
    exact same
  · intro loaded load
    rw [eq_of_load load]

end Machine

namespace Turtle

theorem options_follow (t : Turtle) (i : Instruction) : (t.follow i).options = t.options := by
  cases i <;> rfl

theorem options_followAll (t : Turtle) (is : List Instruction) :
    (t.followAll is).options = t.options := by
  induction is generalizing t with
  | nil => rfl
  | cons i is ih => exact (ih (t.follow i)).trans (options_follow t i)

end Turtle

namespace Session

/-! ## Call after call -/

/-- The session that a call leaves when it has the session to itself. -/
def after (s : Session) (what : Call) : Session :=
  match what.duty? with
  | some duty => ((s.perform duty).toOption.map Prod.fst).getD s
  | none =>
    match what with
    | .clear => s.clear
    | _ => s

def afterAll (s : Session) (calls : List Call) : Session :=
  calls.foldl after s

theorem afterAll_cons (s : Session) (what : Call) (calls : List Call) :
    s.afterAll (what :: calls) = (s.after what).afterAll calls :=
  rfl

/-- The session that a task leaves on a free one: on the canvas that the task starts on, the turtle
has followed the instructions of its program. -/
def ran (s : Session) (t : Task) (waits : Waits) : Session :=
  let run := s.machine.run t.source waits
  { s with machine := run.machine, turtle := (s.prepare t).turtle.followAll run.instructions }

def reported (s : Session) (t : Task) (waits : Waits) : Report :=
  let run := s.machine.run t.source waits
  ⟨run.machine.steps, run.waits, run.error⟩

section Free

variable {s : Session} (free : s.running = false)
include free

theorem run_of_free (t : Task) (waits : Waits) :
    s.run t waits = .ok (s.ran t waits, s.reported t waits) := by
  obtain ⟨machine, turtle, running, log⟩ := s
  cases free
  cases t <;> rfl

theorem perform_task (t : Task) (course : Course) :
    ((s.perform (.task t course)).toOption.map Prod.fst).getD s = s.ran t course.waits := by
  rw [perform, run_of_free free]
  rfl

theorem perform_forget :
    ((s.perform .forget).toOption.map Prod.fst).getD s = { s with machine := s.machine.reset } := by
  obtain ⟨machine, turtle, running, log⟩ := s
  cases free
  rfl

/-- All that a call can do to a free session. -/
theorem after_cases (what : Call) :
    (∃ t course, what.duty? = some (.task t course) ∧ s.after what = s.ran t course.waits) ∨
      (what.duty? = some .forget ∧ s.after what = { s with machine := s.machine.reset }) ∨
      (what.duty? = none ∧ (s.after what = s.clear ∨ s.after what = s)) := by
  cases needed : what.duty? with
  | none =>
    refine .inr (.inr ⟨rfl, ?_⟩)
    cases what <;> simp [after, needed]
  | some duty =>
    cases duty with
    | task t course =>
      refine .inl ⟨t, course, rfl, ?_⟩
      simp only [after, needed]
      exact perform_task free t course
    | forget =>
      refine .inr (.inl ⟨rfl, ?_⟩)
      simp only [after, needed]
      exact perform_forget free

end Free

structure SetUp (settings : Settings) (s : Session) : Prop where
  free : s.running = false
  depth : s.machine.maxDepth = settings.running.maxDepth
  canvas : s.turtle.options = settings.turtleOptions

theorem setUp_fresh (settings : Settings) (log : Logger) : SetUp settings (fresh settings log) :=
  ⟨rfl, rfl, rfl⟩

theorem options_prepare (s : Session) (t : Task) :
    (s.prepare t).turtle.options = s.turtle.options := by
  cases t <;> rfl

theorem SetUp.ran {settings : Settings} {s : Session} (setUp : SetUp settings s) (t : Task)
    (waits : Waits) : SetUp settings (s.ran t waits) := by
  refine ⟨setUp.free, ?_, ?_⟩
  · exact (s.machine.maxDepth_run t.source waits).trans setUp.depth
  · exact (Turtle.options_followAll _ _).trans ((options_prepare s t).trans setUp.canvas)

theorem SetUp.after {settings : Settings} {s : Session} (setUp : SetUp settings s) (what : Call) :
    SetUp settings (s.after what) := by
  rcases after_cases setUp.free what with ⟨t, course, _, left⟩ | ⟨_, left⟩ | ⟨_, left | left⟩
  · rw [left]
    exact setUp.ran t course.waits
  · rw [left]
    exact ⟨setUp.free, setUp.depth, setUp.canvas⟩
  · rw [left]
    exact ⟨setUp.free, setUp.depth, setUp.canvas⟩
  · rw [left]
    exact setUp

/-- A session stays free and as it was set up, whatever it is used for. -/
theorem SetUp.afterAll {settings : Settings} {s : Session} (setUp : SetUp settings s)
    (calls : List Call) : SetUp settings (s.afterAll calls) := by
  induction calls generalizing s with
  | nil => exact setUp
  | cons what calls ih => exact ih (setUp.after what)

/-! ## The count -/

/-- The count that a call leaves behind, if it was `count` before: a program that is loaded leaves the
number of its heads, and forgetting leaves none. -/
def countAfter (s : Session) (count : Nat) (what : Call) : Nat :=
  match what.duty? with
  | some (.task t course) =>
    if Program.fault? (Token.scan t.source) = none then
      (s.machine.headsOf t.source course.waits).length
    else count
  | some .forget => 0
  | none => count

def countAfterAll (s : Session) (count : Nat) : List Call → Nat
  | [] => count
  | what :: calls => (s.after what).countAfterAll (s.countAfter count what) calls

theorem steps_ran (s : Session) (t : Task) (waits : Waits) :
    (s.ran t waits).machine.steps =
      if Program.fault? (Token.scan t.source) = none then (s.machine.headsOf t.source waits).length
      else s.machine.steps := by
  show (s.machine.run t.source waits).machine.steps = _
  split
  · rename_i balanced
    exact s.machine.steps_run_of_balanced balanced waits
  · rename_i unbalanced
    rw [s.machine.machine_run_of_unbalanced unbalanced waits]

theorem steps_after {s : Session} (free : s.running = false) (what : Call) :
    (s.after what).machine.steps = s.countAfter s.machine.steps what := by
  rcases after_cases free what with ⟨t, course, needed, left⟩ | ⟨needed, left⟩ | ⟨needed, left⟩
  · rw [left, countAfter, needed]
    exact s.steps_ran t course.waits
  · rw [left, countAfter, needed]
    rfl
  · rw [countAfter, needed]
    rcases left with left | left <;> rw [left]
    rfl

theorem steps_afterAll {settings : Settings} {s : Session} (setUp : SetUp settings s)
    (calls : List Call) :
    (s.afterAll calls).machine.steps = s.countAfterAll s.machine.steps calls := by
  induction calls generalizing s with
  | nil => rfl
  | cons what calls ih =>
    rw [afterAll_cons, ih (setUp.after what), countAfterAll, steps_after setUp.free]

/-- Whatever a session was used for, it runs a task, and the count that it reports and logs is the
number of heads that this run dispatched, if the brackets of the program are balanced. If not, no
head is dispatched, and the count is what the calls before have left. -/
theorem reported_steps_count_the_last_load (settings : Settings) (log : Logger) (calls : List Call)
    (t : Task) (course : Course) :
    let s := (fresh settings log).afterAll calls
    let dispatched := s.machine.headsOf t.source course.waits
    let count :=
      if Program.fault? (Token.scan t.source) = none then dispatched.length
      else (fresh settings log).countAfterAll 0 calls
    (Program.fault? (Token.scan t.source) ≠ none → dispatched = []) ∧
      ∃ later report, s.run t course.waits = .ok (later, report) ∧ report.steps = count ∧
        later.closing t course.elapsed report =
          [s.log.completed t.name course.elapsed,
            s.log.ran t.name count later.turtle.segments.size (report.error.map (·.message))] := by
  intro s dispatched count
  have setUp := (setUp_fresh settings log).afterAll calls
  have before : s.machine.steps = (fresh settings log).countAfterAll 0 calls :=
    steps_afterAll (setUp_fresh settings log) calls
  have counted : (s.reported t course.waits).steps = count := by
    have ran := s.steps_ran t course.waits
    rw [before] at ran
    exact ran
  refine ⟨?_, s.ran t course.waits, s.reported t course.waits, ?_, counted, ?_⟩
  · intro unbalanced
    exact s.machine.headsOf_of_unbalanced unbalanced course.waits
  · exact run_of_free setUp.free t course.waits
  · rw [← counted]
    rfl

/-- A text of one stray bracket dispatches nothing and is reported with the three steps of the
program before. -/
theorem stale_count_after_stray_bracket :
    let earlier : Call := .run (utf8 "PU PD PU") ⟨Waits.never, []⟩
    let s := (fresh .standard .silent).after earlier
    s.machine.headsOf (utf8 "]") Waits.never = [] ∧
      ∃ later report, s.run (.program (utf8 "]")) Waits.never = .ok (later, report) ∧
        report.steps = 3 := by
  intro earlier s
  have unbalanced : Program.fault? (Token.scan (utf8 "]")) ≠ none := by
    decide +kernel
  have steps : ((Machine.fresh 512).run (utf8 "PU PD PU") Waits.never).machine.steps = 3 := by cbv
  refine ⟨s.machine.headsOf_of_unbalanced unbalanced Waits.never, ?_⟩
  have free : s.running = false := ((setUp_fresh .standard .silent).after earlier).free
  refine ⟨_, _, run_of_free free _ Waits.never, ?_⟩
  have same := s.machine.machine_run_of_unbalanced unbalanced Waits.never
  exact (congrArg Machine.steps same).trans steps

end Session

end TurtleLogo
