import TurtleLogo.Proofs.Lines
import TurtleLogo.Proofs.Lockstep

/-!
# Layout does not matter

How a program is laid out shows only in the lines of its tokens. Two programs with the same kinds and
texts run in step, also from tables whose procedures differ in lines: they draw the same, take as
many steps and leave the same variables, and when they fail they say the same, apart from the line.
-/

set_option autoImplicit false

namespace TurtleLogo

/-- Tables with the same variables, and the same procedures up to the lines of their tokens. -/
structure Tables.Matches (tables tables' : Tables) : Prop where
  values : ∀ name, tables.values.get? name = tables'.values.get? name
  procedures : ∀ name,
    (tables.procedures.get? name).map Program.unlined =
      (tables'.procedures.get? name).map Program.unlined

structure Diagnostic.SaysAs (d d' : Diagnostic) : Prop where
  kind : d.kind = d'.kind
  text : d.cause.message = d'.cause.message

theorem Diagnostic.saysAs_of_unlined {d d' : Diagnostic} (same : d.unlined = d'.unlined) :
    d.SaysAs d' := by
  have cause : d.cause = d'.cause := (Diagnostic.mk.inj same).1
  exact ⟨congrArg Cause.kind cause, congrArg Cause.message cause⟩

/-! ## One head -/

/-- A head looks names up and does nothing else with the tables. -/
theorem interpret_congr {tables tables' : Tables}
    (values : ∀ name, tables.values.get? name = tables'.values.get? name)
    (procedures : ∀ name, tables.procedures.get? name = tables'.procedures.get? name)
    (head : Token) (rest : Program) : interpret tables head rest = interpret tables' head rest := by
  have evaluates : tables.evaluate = tables'.evaluate := by
    funext t
    simp only [Tables.evaluate, values]
  have numbers : numberArgument tables = numberArgument tables' := by
    funext command t
    simp only [numberArgument, evaluates]
  have commands : interpretCommand tables = interpretCommand tables' := by
    funext command name line rest
    simp only [interpretCommand, interpretVariable, interpretLoop, withNumber, evaluates, numbers]
  simp only [interpret, commands, procedures]

theorem interpret_matches {tables tables' : Tables} (matching : tables.Matches tables')
    {head head' : Token} {rest rest' : Program} (heads : head.unlined = head'.unlined)
    (rests : Program.unlined rest = Program.unlined rest') :
    unlinedResult unlinedPair (interpret tables head rest) =
      unlinedResult unlinedPair (interpret tables' head' rest') := by
  have values : ∀ name, tables.unlined.values.get? name = tables'.unlined.values.get? name :=
    matching.values
  have procedures : ∀ name,
      tables.unlined.procedures.get? name = tables'.unlined.procedures.get? name := by
    intro name
    simp only [Tables.unlined, Table.get?_map, matching.procedures name]
  rw [← interpret_unlined, ← interpret_unlined, heads, rests]
  exact interpret_congr values procedures _ _

section Updates

variable {tables tables' : Tables} (matching : tables.Matches tables')

include matching

theorem Tables.Matches.assign (name : Text) (x : Float) :
    Tables.Matches { tables with values := tables.values.set name x }
      { tables' with values := tables'.values.set name x } := by
  refine ⟨?_, matching.procedures⟩
  intro other
  simp only [Table.get?_set, matching.values]

theorem Tables.Matches.define (name : Text) {body body' : Program}
    (bodies : Program.unlined body = Program.unlined body') :
    Tables.Matches { tables with procedures := tables.procedures.set name body }
      { tables' with procedures := tables'.procedures.set name body' } := by
  refine ⟨matching.values, ?_⟩
  intro other
  simp only [Table.get?_set]
  split
  · rw [Option.map_some, Option.map_some, bodies]
  · exact matching.procedures other

end Updates

/-! ## One step -/

def Frame.unlined (f : Frame) : Frame :=
  ⟨Program.unlined f.body, Program.unlined f.rest, f.again, 0⟩

namespace Machine

def Focus.unlined (focus : Focus) : Focus :=
  ⟨focus.head.unlined, Program.unlined focus.rest, focus.frame.unlined,
    focus.outer.map Frame.unlined⟩

theorem next?_unlined (frames : List Frame) :
    next? (frames.map Frame.unlined) = (next? frames).map Focus.unlined := by
  induction frames with
  | nil => rfl
  | cons f outer ih =>
    obtain ⟨body, rest, again, opened⟩ := f
    cases rest with
    | cons head rest => rfl
    | nil =>
      cases again with
      | zero => exact ih
      | succ again =>
        cases body with
        | nil => exact ih
        | cons head rest => rfl

theorem unlined_tagged (d : Diagnostic) (line : Int) (frames : List Frame) :
    (tagged d line frames).unlined = d.unlined := by
  unfold tagged
  induction frames generalizing d line with
  | nil => exact d.unlined_withLine line
  | cons f outer ih =>
    rw [List.foldl_cons]
    exact (ih (d.withLine line) f.opened).trans (d.unlined_withLine line)

theorem cause_tagged (d : Diagnostic) (line : Int) (frames : List Frame) :
    (tagged d line frames).cause = d.cause := by
  have cause := congrArg Diagnostic.cause (unlined_tagged d line frames)
  exact cause

structure LaidOutAlike (m m' : Machine) : Prop where
  tables : m.tables.Matches m'.tables
  frames : m.frames.map Frame.unlined = m'.frames.map Frame.unlined
  steps : m.steps = m'.steps
  maxDepth : m.maxDepth = m'.maxDepth

namespace LaidOutAlike

variable {m m' : Machine} (alike : LaidOutAlike m m')

include alike

theorem limit : m.limit = m'.limit := by
  rw [Machine.limit, Machine.limit, alike.maxDepth]

theorem closed : LaidOutAlike { m with frames := [] } { m' with frames := [] } :=
  ⟨alike.tables, rfl, alike.steps, alike.maxDepth⟩

/-- The machines after a step that went on to the given frames and left the tables alone. -/
theorem advanced {frames frames' : List Frame}
    (same : frames.map Frame.unlined = frames'.map Frame.unlined) :
    LaidOutAlike { m with frames := frames, steps := m.steps + 1 }
      { m' with frames := frames', steps := m'.steps + 1 } :=
  ⟨alike.tables, same, congrArg (· + 1) alike.steps, alike.maxDepth⟩

theorem abort {head head' : Token} {frames frames' : List Frame} {d d' : Diagnostic}
    (faults : d.unlined = d'.unlined) :
    Progress.Alike Diagnostic.SaysAs (m.abort head frames d).1 (m'.abort head' frames' d').1 ∧
      LaidOutAlike (m.abort head frames d).2 (m'.abort head' frames' d').2 := by
  refine ⟨.failed (Diagnostic.saysAs_of_unlined ?_), alike.advanced rfl⟩
  rw [unlined_tagged, unlined_tagged, faults]

theorem perform {head head' : Token} {frames frames' : List Frame} {effect effect' : Effect}
    (same : frames.map Frame.unlined = frames'.map Frame.unlined)
    (effects : effect.unlined = effect'.unlined) :
    Progress.Alike Diagnostic.SaysAs (m.perform head frames effect).1
        (m'.perform head' frames' effect').1 ∧
      LaidOutAlike (m.perform head frames effect).2 (m'.perform head' frames' effect').2 := by
  cases effect with
  | nothing =>
    cases effect' <;> cases effects
    exact ⟨.moved none, alike.advanced same⟩
  | draw i =>
    cases effect' <;> cases effects
    exact ⟨.moved (some i), alike.advanced same⟩
  | assign name x =>
    cases effect' <;> cases effects
    exact ⟨.moved none, { alike.advanced same with tables := alike.tables.assign name x }⟩
  | define name body =>
    cases effect' with
    | define name' body' =>
      obtain ⟨rfl, bodies⟩ := Effect.define.inj effects
      exact ⟨.moved none, { alike.advanced same with tables := alike.tables.define name bodies }⟩
    | _ => cases effects
  | enter body again =>
    cases effect' with
    | enter body' again' =>
      obtain ⟨bodies, rfl⟩ := Effect.enter.inj effects
      have depth : frames.length = frames'.length := by simpa using congrArg List.length same
      simp only [Machine.perform, alike.limit, depth]
      split
      · exact alike.abort rfl
      · refine ⟨.moved none, alike.advanced ?_⟩
        simp only [List.map_cons, same]
        simp only [Frame.unlined, Frame.start, bodies]
    | _ => cases effects

theorem step :
    Progress.Alike Diagnostic.SaysAs m.step.1 m'.step.1 ∧ LaidOutAlike m.step.2 m'.step.2 := by
  have focused : (next? m.frames).map Focus.unlined = (next? m'.frames).map Focus.unlined := by
    rw [← next?_unlined, ← next?_unlined, alike.frames]
  cases found : next? m.frames with
  | none =>
    rw [found, Option.map_none, eq_comm, Option.map_eq_none_iff] at focused
    rw [step_of_exhausted found, step_of_exhausted focused]
    exact ⟨.done, alike.closed⟩
  | some focus =>
    obtain ⟨head, rest, f, outer⟩ := focus
    rw [found, Option.map_some, eq_comm, Option.map_eq_some_iff] at focused
    obtain ⟨⟨head', rest', f', outer'⟩, found', same⟩ := focused
    obtain ⟨heads, rests, innermost, around⟩ := Focus.mk.inj same
    have results := interpret_matches alike.tables heads.symm rests.symm
    cases interpreted : interpret m.tables head rest with
    | error d =>
      cases interpreted' : interpret m'.tables head' rest' with
      | ok taken => rw [interpreted, interpreted'] at results; cases results
      | error d' =>
        rw [interpreted, interpreted'] at results
        rw [step_of_refused found interpreted, step_of_refused found' interpreted']
        exact alike.abort (Except.error.inj results)
    | ok taken =>
      cases interpreted' : interpret m'.tables head' rest' with
      | error d' => rw [interpreted, interpreted'] at results; cases results
      | ok taken' =>
        rw [interpreted, interpreted'] at results
        obtain ⟨effects, afters⟩ := Prod.mk.inj (Except.ok.inj results)
        rw [step_of_interpreted found interpreted, step_of_interpreted found' interpreted']
        obtain ⟨bodies, _, passes, _⟩ := Frame.mk.inj innermost
        simp only at bodies passes
        refine alike.perform ?_ effects
        simp only [List.map_cons, around]
        simp only [Frame.unlined, bodies, passes, afters]

end LaidOutAlike

/-- Machines that differ in nothing but lines run in step. -/
theorem layout_lockstep : Lockstep LaidOutAlike Diagnostic.SaysAs where
  step alike := alike.step
  closed alike := alike.closed
  steps alike := alike.steps

/-! ## Whole runs -/

theorem load_laidOutAlike {m m' loaded loaded' : Machine} {p p' : Program}
    (load : m.load p = .ok loaded) (load' : m'.load p' = .ok loaded')
    (tables : m.tables.Matches m'.tables) (maxDepth : m.maxDepth = m'.maxDepth)
    (same : Program.unlined p = Program.unlined p') : LaidOutAlike loaded loaded' := by
  rw [eq_of_load load, eq_of_load load']
  refine ⟨tables, ?_, rfl, maxDepth⟩
  have whole : ∀ q : Program,
      (if q.isEmpty then [] else [Frame.start q 0 0]).map Frame.unlined =
        if (Program.unlined q).isEmpty then [] else [Frame.start (Program.unlined q) 0 0] := by
    intro q
    cases q <;> rfl
  rw [whole, whole, same]

/-- Two source texts whose tokens have the same kinds and texts run alike, from any two tables that
differ in the lines of procedures only: they give the same instructions, count as many steps, and
leave tables that again differ in such lines only. Both succeed, or both are broken off by the same
wait, or both fail with a diagnostic of the same kind and the same text, apart from its line. -/
theorem layout_does_not_matter (m : Machine) (tables : Tables) (matching : m.tables.Matches tables)
    (src src' : Text) (same : Program.unlined (Token.scan src) = Program.unlined (Token.scan src'))
    (waits : Waits) :
    let r := m.run src waits
    let r' := { m with tables := tables }.run src' waits
    r.instructions = r'.instructions ∧ r.machine.steps = r'.machine.steps ∧
      r.machine.tables.Matches r'.machine.tables ∧
      Option.Rel (RunError.Alike Diagnostic.SaysAs) r.error r'.error := by
  intro r r'
  have faults : (Program.fault? (Token.scan src)).map Diagnostic.unlined =
      (Program.fault? (Token.scan src')).map Diagnostic.unlined := by
    simp only [Program.fault?, ← Program.faultFrom_unlined, same]
  cases fault : Program.fault? (Token.scan src) with
  | none =>
    rw [fault, Option.map_none, eq_comm, Option.map_eq_none_iff] at faults
    have load := load_of_balanced m fault
    have load' := load_of_balanced { m with tables := tables } faults
    have alike : Run.Alike LaidOutAlike Diagnostic.SaysAs r r' :=
      layout_lockstep.runProgram load load' (load_laidOutAlike load load' matching rfl same) waits
    exact ⟨alike.instructions, alike.machine.steps, alike.machine.tables, alike.error⟩
  | some d =>
    rw [fault, Option.map_some, eq_comm, Option.map_eq_some_iff] at faults
    obtain ⟨d', fault', alike⟩ := faults
    have refused : m.load (Token.scan src) = .error d := by rw [load, fault]
    have refused' : { m with tables := tables }.load (Token.scan src') = .error d' := by
      rw [load, fault']
    simp only [r, r', run, runProgram_refused refused, runProgram_refused refused']
    exact ⟨trivial, trivial, matching, .some (.diagnosed (Diagnostic.saysAs_of_unlined alike.symm))⟩

/-- A procedure kept from line 1 or line 8, and a call of it that stands with an unknown word on one
line or on two. -/
theorem layout_does_not_matter_respread :
    let pu (line : Int) : Program := [⟨.word, utf8 "PU", line⟩]
    let m : Machine := { fresh 3 with tables := ⟨.empty, ⟨[(utf8 "A", pu 1), (utf8 "B", pu 2)]⟩⟩ }
    let tables : Tables := ⟨.empty, ⟨[(utf8 "B", pu 2), (utf8 "A", pu 8)]⟩⟩
    let r := m.run (utf8 "A NO") Waits.never
    let r' := { m with tables := tables }.run (utf8 "A;\n  NO") Waits.never
    m.tables.Matches tables ∧
      Program.unlined (Token.scan (utf8 "A NO")) = Program.unlined (Token.scan (utf8 "A;\n  NO")) ∧
      r.instructions = r'.instructions ∧ r.machine.steps = r'.machine.steps ∧
      Option.Rel (RunError.Alike Diagnostic.SaysAs) r.error r'.error := by
  intro pu m tables r r'
  have matching : m.tables.Matches tables := by
    refine ⟨fun _ => rfl, ?_⟩
    intro name
    by_cases isA : name = utf8 "A"
    · subst isA
      rfl
    · by_cases isB : name = utf8 "B"
      · subst isB
        rfl
      · simp [m, tables, Table.get?, List.lookup_cons, beq_eq_false_iff_ne.mpr isA,
          beq_eq_false_iff_ne.mpr isB]
  have same : Program.unlined (Token.scan (utf8 "A NO")) =
      Program.unlined (Token.scan (utf8 "A;\n  NO")) := by decide +kernel
  obtain ⟨instructions, steps, _, error⟩ :=
    layout_does_not_matter m tables matching _ _ same Waits.never
  exact ⟨matching, same, instructions, steps, error⟩

end Machine

end TurtleLogo
