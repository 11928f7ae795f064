import TurtleLogo.Proofs.Histories
import TurtleLogo.Proofs.SelfContained

/-!
# Samples and what came before them

A sample runs with all the variables and procedures that earlier programs have left, but it is
self-contained. So it draws the same picture as in a fresh session, unless a variable goes by the text
of one of its numbers: after `VAR 5 0`, every 5 that stands as an argument is a 0.
-/

set_option autoImplicit false

namespace TurtleLogo

/-! ## Runs that end soon -/

namespace Machine

/-- Steps a machine to its end, if that is reached within `fuel` steps, with waits that all go
well. -/
def finishIn : Nat → Machine → List Instruction → Nat → Option Run
  | 0, _, _, _ => none
  | fuel + 1, m, drawn, made =>
    match m.step with
    | (.done, m') => some ⟨m', drawn.reverse, made, none⟩
    | (.failed d, m') => some ⟨m', drawn.reverse, made, some (.diagnosed d)⟩
    | (.moved i, m') => finishIn fuel m' (i.toList ++ drawn) (made + 1)

theorem finish_of_finishIn {fuel n : Nat} {m : Machine} {drawn : List Instruction} {made : Nat}
    {r : Run} (done : finishIn fuel m drawn made = some r) (within : m.Within n) :
    finish Waits.never m within drawn made = r := by
  induction fuel generalizing m drawn made with
  | zero => cases done
  | succ fuel ih =>
    rw [finishIn] at done
    split at done
    · rename_i m' step
      have ending : m.step = (.ending none, m') := step
      cases done
      exact finish_of_ending Waits.never within drawn made ending
    · rename_i d m' step
      have ending : m.step = (.ending (some d), m') := step
      cases done
      exact finish_of_ending Waits.never within drawn made ending
    · rename_i i m' step
      rw [finish_of_moved Waits.never within drawn made step rfl]
      exact ih done _

def runIn (fuel : Nat) (m : Machine) (src : Text) : Option Run :=
  match m.load (Token.scan src) with
  | .error d => some ⟨m, [], 0, some (.diagnosed d)⟩
  | .ok loaded => finishIn fuel loaded [] 0

theorem run_of_runIn {fuel : Nat} {m : Machine} {src : Text} {r : Run}
    (done : runIn fuel m src = some r) : m.run src Waits.never = r := by
  rw [runIn] at done
  split at done
  · rename_i d refused
    cases done
    exact runProgram_refused refused Waits.never
  · rename_i loaded load
    rw [run, runProgram_loaded load]
    exact finish_of_finishIn done _

theorem undisturbed_never (m : Machine) (src : Text) : (m.run src Waits.never).undisturbed := by
  unfold run
  cases load : m.load (Token.scan src) with
  | error d =>
    rw [runProgram_refused load]
    rfl
  | ok loaded =>
    obtain ⟨k, is, fault, final, ends⟩ := exists_ends (load_within load)
    rw [runProgram_never load ends]
    cases fault <;> rfl

end Machine

/-! ## The samples -/

namespace Sample

def numbers (s : Sample) : List Text :=
  Program.numbers (Token.scan s.source)

theorem balanced_of_mem {s : Sample} (member : s ∈ all) :
    Program.fault? (Token.scan s.source) = none := by
  have checked : ∀ s ∈ all, Program.fault? (Token.scan s.source) = none := by decide +kernel
  exact checked s member

theorem selfContained_of_mem {s : Sample} (member : s ∈ all) :
    Program.SelfContained s.numbers [] (Token.scan s.source) := by
  have checked : ∀ s ∈ all, Program.contained s.numbers 20 [] (Token.scan s.source) = true := by
    decide +kernel
  exact Program.selfContained_of_contained (checked s member)

end Sample

namespace Session

/-- The canvas that a sample starts on is the same for all sessions with the same settings. -/
theorem prepare_sample {settings : Settings} {s : Session} (setUp : SetUp settings s)
    (sample : Sample) : (s.prepare (.sample sample)).turtle = .home settings.turtleOptions := by
  show Turtle.home s.turtle.options = _
  rw [setUp.canvas]

/-- Two sessions of the same settings run a sample alike, if no variable of either takes the place of
one of its numbers. -/
theorem run_sample_alike {settings : Settings} {s s' : Session} (setUp : SetUp settings s)
    (setUp' : SetUp settings s') {sample : Sample} (member : sample ∈ Sample.all)
    (spares : ∀ number ∈ sample.numbers,
      s.machine.tables.Spares number ∧ s'.machine.tables.Spares number) (waits : Waits) :
    s.reported (.sample sample) waits = s'.reported (.sample sample) waits ∧
      (s.ran (.sample sample) waits).turtle = (s'.ran (.sample sample) waits).turtle := by
  have depth : s.machine.maxDepth = s'.machine.maxDepth := setUp.depth.trans setUp'.depth.symm
  have alike := Machine.run_of_selfContained (Sample.balanced_of_mem member)
    (Sample.selfContained_of_mem member) spares depth waits
  have steps := (Machine.tables_lockstep sample.numbers).steps alike.machine
  refine ⟨?_, ?_⟩
  · simp only [reported, Task.source]
    rw [steps, alike.waits, Run.error_eq_of_alike alike]
  · simp only [ran, Task.source]
    rw [alike.instructions, prepare_sample setUp, prepare_sample setUp']

/-- What a task reports and leaves does not depend on waits that do not break it off. -/
theorem run_of_undisturbed {s : Session} (free : s.running = false) {t : Task} {waits : Waits}
    (undisturbed : (s.machine.run t.source waits).undisturbed) :
    s.run t waits = .ok (s.ran t Waits.never, s.reported t Waits.never) := by
  rw [run_of_free free]
  simp only [ran, reported, Machine.run_of_undisturbed undisturbed]

/-- Whatever a session was used for, a sample that no wait breaks off reports the same and leaves the
same turtle as in a fresh session, if no variable takes the place of one of its numbers. -/
theorem samples_draw_as_in_a_fresh_session (settings : Settings) (log : Logger) (calls : List Call)
    (sample : Sample) (member : sample ∈ Sample.all) (waits waits' : Waits)
    (spares : ∀ number ∈ sample.numbers,
      ((fresh settings log).afterAll calls).machine.tables.Spares number)
    (undisturbed :
      (((fresh settings log).afterAll calls).machine.run sample.source waits).undisturbed)
    (undisturbed' : ((fresh settings log).machine.run sample.source waits').undisturbed) :
    ∃ later later' report,
      ((fresh settings log).afterAll calls).run (.sample sample) waits = .ok (later, report) ∧
        (fresh settings log).run (.sample sample) waits' = .ok (later', report) ∧
        later.turtle = later'.turtle := by
  have unused := setUp_fresh settings log
  have used := unused.afterAll calls
  have spared : ∀ number ∈ sample.numbers,
      ((fresh settings log).afterAll calls).machine.tables.Spares number ∧
        (fresh settings log).machine.tables.Spares number := by
    intro number listed
    exact ⟨spares number listed, .of_get?_none rfl⟩
  obtain ⟨reports, turtles⟩ := run_sample_alike used unused member spared Waits.never
  have ran := run_of_undisturbed (t := .sample sample) used.free undisturbed
  have ran' := run_of_undisturbed (t := .sample sample) unused.free undisturbed'
  rw [reports] at ran
  exact ⟨_, _, _, ran, ran', turtles⟩

/-- The square is drawn as in a fresh session after a program that has a variable and a procedure of
its own, which is called like the one of the sample, and then fails. -/
theorem samples_draw_as_in_a_fresh_session_square :
    let earlier : Text := utf8 "VAR SIDE 20 DEF SQUARE FD SIDE END SQUARE NO"
    let calls : List Call := [.run earlier ⟨Waits.never, []⟩, .clear]
    let s := (fresh .standard .silent).afterAll calls
    Sample.square ∈ Sample.all ∧
      (∀ number ∈ Sample.square.numbers, s.machine.tables.Spares number) ∧
      (s.machine.run Sample.square.source Waits.never).undisturbed ∧
      ((fresh .standard .silent).machine.run Sample.square.source Waits.never).undisturbed ∧
      ∃ later later' report, s.run (.sample .square) Waits.never = .ok (later, report) ∧
        (fresh .standard .silent).run (.sample .square) Waits.never = .ok (later', report) ∧
        later.turtle = later'.turtle := by
  intro earlier calls s
  have computed : (Machine.runIn 10 (.fresh 512) earlier).map
      (fun r => Sample.square.numbers.all fun number =>
        (r.machine.tables.values.get? number).isNone) = some true := by
    decide +kernel
  obtain ⟨r, done, unused⟩ := Option.map_eq_some_iff.mp computed
  have tables : s.machine.tables = r.machine.tables := by
    rw [← Machine.run_of_runIn done]
    rfl
  have spares : ∀ number ∈ Sample.square.numbers, s.machine.tables.Spares number := by
    intro number listed
    rw [tables]
    exact .of_get?_none (Option.isNone_iff_eq_none.mp (List.all_eq_true.mp unused number listed))
  have member : Sample.square ∈ Sample.all := List.mem_cons_self
  have undisturbed := s.machine.undisturbed_never Sample.square.source
  have undisturbed' := (fresh .standard .silent).machine.undisturbed_never Sample.square.source
  exact ⟨member, spares, undisturbed, undisturbed',
    samples_draw_as_in_a_fresh_session .standard .silent calls .square member Waits.never
      Waits.never spares undisturbed undisturbed'⟩

/-- After `VAR 5 0` the star, which is five strokes, has none. -/
theorem star_without_strokes :
    let s := (fresh .standard .silent).after (.run (utf8 "VAR 5 0") ⟨Waits.never, []⟩)
    ∃ later report later' report',
      s.run (.sample .star) Waits.never = .ok (later, report) ∧ report.error = none ∧
        (fresh .standard .silent).run (.sample .star) Waits.never = .ok (later', report') ∧
        report'.error = none ∧ later.turtle.segments.size = 0 ∧
        later'.turtle.segments.size = 5 := by
  intro s
  let seen (r : Run) : Option RunError × Nat :=
    (r.error, ((Turtle.home Settings.standard.turtleOptions).followAll r.instructions).segments.size)
  have computed : ((Machine.runIn 5 (.fresh 512) (utf8 "VAR 5 0")).bind fun r =>
      (Machine.runIn 20 r.machine Sample.star.source).map seen) = some (none, 0) := by
    decide +kernel
  have computed' :
      (Machine.runIn 20 (.fresh 512) Sample.star.source).map seen = some (none, 5) := by
    decide +kernel
  obtain ⟨r, done, drawn⟩ := Option.bind_eq_some_iff.mp computed
  obtain ⟨star, starDone, starSeen⟩ := Option.map_eq_some_iff.mp drawn
  obtain ⟨star', starDone', starSeen'⟩ := Option.map_eq_some_iff.mp computed'
  have machine : s.machine = r.machine := by
    rw [← Machine.run_of_runIn done]
    rfl
  have ran : s.machine.run Sample.star.source Waits.never = star := by
    rw [machine]
    exact Machine.run_of_runIn starDone
  have ran' : (fresh .standard .silent).machine.run Sample.star.source Waits.never = star' :=
    Machine.run_of_runIn starDone'
  have unused := setUp_fresh .standard .silent
  have used := unused.after (.run (utf8 "VAR 5 0") ⟨Waits.never, []⟩)
  obtain ⟨error, strokes⟩ := Prod.mk.inj starSeen
  obtain ⟨error', strokes'⟩ := Prod.mk.inj starSeen'
  refine ⟨_, _, _, _, run_of_free used.free _ _, ?_, run_of_free unused.free _ _, ?_, ?_, ?_⟩
  · exact (congrArg Run.error ran).trans error
  · exact (congrArg Run.error ran').trans error'
  · simp only [Session.ran, Task.source]
    rw [prepare_sample used, ran]
    exact strokes
  · simp only [Session.ran, Task.source]
    rw [prepare_sample unused, ran']
    exact strokes'

end Session

end TurtleLogo
