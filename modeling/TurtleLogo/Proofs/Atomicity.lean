import TurtleLogo.Proofs.Interpretation
import TurtleLogo.Proofs.Trace

/-!
# Steps are atomic

A step settles everything that can go wrong before it does anything. So a step that fails has given no
instruction and changed no table, and it leaves nothing to be done. A step that moves does one thing:
it gives an instruction, writes a variable, writes a procedure or opens a frame, if it does anything
at all. Below the frame whose head it carries out the stack stays as it is, and above it were only
frames with nothing left to do.
-/

set_option autoImplicit false

namespace TurtleLogo

/-- Nothing is left to do in the frame: no tokens in this pass, and none in the passes to come. -/
def Frame.Spent (f : Frame) : Prop :=
  f.rest = [] ∧ (f.again = 0 ∨ f.body = [])

/-- `f.Advances f'`: the frame takes at least one token, of its current pass or, if that is over, of
the next one. -/
structure Frame.Advances (f f' : Frame) : Prop where
  body : f'.body = f.body
  opened : f'.opened = f.opened
  takes : ∃ taken, taken ≠ [] ∧
    (f.rest = taken ++ f'.rest ∧ f'.again = f.again ∨
      f.rest = [] ∧ f.body = taken ++ f'.rest ∧ f.again = f'.again + 1)

namespace Machine

def Progress.calls : Progress → List Instruction
  | .moved i => i.toList
  | .done | .failed _ => []

/-- `SingleChange m frames is m'`: with these frames on its stack, the machine has done one thing at
most. It has given an instruction, written one entry of a table, or opened a frame. -/
inductive SingleChange (m : Machine) (frames : List Frame) : List Instruction → Machine → Prop
  | nothing : SingleChange m frames [] { m with frames := frames, steps := m.steps + 1 }
  | call (i : Instruction) :
      SingleChange m frames [i] { m with frames := frames, steps := m.steps + 1 }
  | value (name : Text) (x : Float) :
      SingleChange m frames []
        { m with
          frames := frames
          steps := m.steps + 1
          tables := { m.tables with values := m.tables.values.set name x } }
  | procedure (name : Text) (body : Program) :
      SingleChange m frames []
        { m with
          frames := frames
          steps := m.steps + 1
          tables := { m.tables with procedures := m.tables.procedures.set name body } }
  | push (body : Program) (again : Nat) (line : Int) :
      SingleChange m frames []
        { m with frames := Frame.start body again line :: frames, steps := m.steps + 1 }

/-! ## The frames that a step leaves -/

theorem spent_of_exhausted {frames : List Frame} (exhausted : next? frames = none) :
    ∀ f ∈ frames, f.Spent := by
  induction frames with
  | nil =>
    intro f member
    cases member
  | cons f outer ih =>
    obtain ⟨body, rest, again, opened⟩ := f
    cases rest with
    | cons head tail => cases exhausted
    | nil =>
      rw [List.forall_mem_cons]
      cases again with
      | zero => exact ⟨⟨rfl, .inl rfl⟩, ih exhausted⟩
      | succ again =>
        cases body with
        | nil => exact ⟨⟨rfl, .inr rfl⟩, ih exhausted⟩
        | cons head tail => cases exhausted

/-- The search for the next head passes over frames with nothing left to do. -/
theorem spent_of_found {frames : List Frame} {focus : Focus} (found : next? frames = some focus)
    {after : Program} (ends : after <:+ focus.rest) :
    ∃ spent f, frames = spent ++ f :: focus.outer ∧ (∀ g ∈ spent, g.Spent) ∧
      f.Advances { focus.frame with rest := after } := by
  obtain ⟨arguments, taken⟩ := ends
  have nonempty : focus.head :: arguments ≠ [] := List.cons_ne_nil _ _
  induction frames with
  | nil => cases found
  | cons f outer ih =>
    obtain ⟨body, rest, again, opened⟩ := f
    cases rest with
    | cons head tail =>
      cases found
      refine ⟨[], _, rfl, List.forall_mem_nil _, rfl, rfl, head :: arguments, nonempty,
        .inl ⟨?_, rfl⟩⟩
      exact congrArg (head :: ·) taken.symm
    | nil =>
      -- The frame is over unless it has another pass with a token in it.
      have passed : ∀ {again : Nat} {body : Program}, (again = 0 ∨ body = []) →
          next? outer = some focus →
          ∃ spent f, (⟨body, [], again, opened⟩ : Frame) :: outer = spent ++ f :: focus.outer ∧
            (∀ g ∈ spent, g.Spent) ∧ f.Advances { focus.frame with rest := after } := by
        intro again body idle later
        obtain ⟨spent, f, parts, each, advances⟩ := ih later
        refine ⟨⟨body, [], again, opened⟩ :: spent, f, congrArg _ parts, ?_, advances⟩
        exact List.forall_mem_cons.mpr ⟨⟨rfl, idle⟩, each⟩
      cases again with
      | zero => exact passed (.inl rfl) found
      | succ again =>
        cases body with
        | nil => exact passed (.inr rfl) found
        | cons head tail =>
          cases found
          refine ⟨[], _, rfl, List.forall_mem_nil _, rfl, rfl, head :: arguments, nonempty,
            .inr ⟨rfl, ?_, rfl⟩⟩
          exact congrArg (head :: ·) taken.symm

/-! ## One step and those after it -/

theorem step_of_closed {m : Machine} (closed : m.frames = []) : m.step = (.done, m) := by
  obtain ⟨tables, frames, steps, maxDepth⟩ := m
  cases closed
  rfl

/-- A machine without open frames can be stepped on for ever, to no effect. -/
theorem iterate_of_closed {m : Machine} (closed : m.frames = []) (n : Nat) :
    ((fun later : Machine => later.step.2)^[n] m).step = (.done, m) := by
  have fixed : (fun later : Machine => later.step.2) m = m :=
    congrArg Prod.snd (step_of_closed closed)
  rw [Function.iterate_fixed fixed, step_of_closed closed]

theorem singleChange_of_plain {m : Machine} {frames : List Frame} {effect : Effect}
    (plain : effect.opens = false) :
    SingleChange m frames effect.instruction?.toList
      { m with tables := effect.update m.tables, frames := frames, steps := m.steps + 1 } := by
  cases effect with
  | nothing => exact .nothing
  | draw i => exact .call i
  | assign name x => exact .value name x
  | define name body => exact .procedure name body
  | enter => cases plain

theorem singleChange_of_moved {m m' : Machine} {i : Option Instruction}
    (step : m.step = (.moved i, m')) :
    ∃ spent f f' outer, m.frames = spent ++ f :: outer ∧ (∀ g ∈ spent, g.Spent) ∧
      f.Advances f' ∧ SingleChange m (f' :: outer) i.toList m' := by
  cases stepped_of_step step with
  | @opened head rest after body f outer again found interpreted room =>
    obtain ⟨spent, g, parts, each, advances⟩ :=
      spent_of_found found (interpreted_of_interpret interpreted).after_ends
    exact ⟨spent, g, _, outer, parts, each, advances, .push body again head.line⟩
  | @carriedOut head rest after f outer effect found interpreted plain =>
    obtain ⟨spent, g, parts, each, advances⟩ :=
      spent_of_found found (interpreted_of_interpret interpreted).after_ends
    exact ⟨spent, g, _, outer, parts, each, advances, singleChange_of_plain plain⟩

/-- Steps are atomic. One that fails gives no instruction, leaves the tables as they were and drops
every frame; whatever is stepped after it is done and changes nothing. One that finds nothing to do
only leaves frames that are spent. One that moves takes its head and arguments from one frame, drops
the spent frames above it, and changes one thing at most besides. -/
theorem steps_are_atomic (m : Machine) :
    (∀ d m', m.step = (.failed d, m') →
      m.step.1.calls = [] ∧ m' = { m with frames := [], steps := m.steps + 1 } ∧
      ∀ n, ((fun later : Machine => later.step.2)^[n] m').step = (.done, m')) ∧
    (∀ m', m.step = (.done, m') →
      m.step.1.calls = [] ∧ m' = { m with frames := [] } ∧ ∀ f ∈ m.frames, f.Spent) ∧
    ∀ i m', m.step = (.moved i, m') →
      ∃ spent f f' outer, m.frames = spent ++ f :: outer ∧ (∀ g ∈ spent, g.Spent) ∧
        f.Advances f' ∧ SingleChange m (f' :: outer) m.step.1.calls m' := by
  refine ⟨?_, ?_, ?_⟩
  · intro d m' step
    have left : m' = { m with frames := [], steps := m.steps + 1 } := by
      cases stepped_of_step step <;> rfl
    refine ⟨by rw [step]; rfl, left, ?_⟩
    intro n
    apply iterate_of_closed
    rw [left]
  · intro m' step
    refine ⟨by rw [step]; rfl, ?_⟩
    cases stepped_of_step step with
    | ended exhausted => exact ⟨rfl, spent_of_exhausted exhausted⟩
  · intro i m' step
    rw [step]
    exact singleChange_of_moved step

/-- A procedure without the distance that it needs is defined, called and fails. -/
theorem steps_are_atomic_call :
    let word (name : String) : Token := ⟨.word, utf8 name, 1⟩
    let p : Program := [word "DEF", word "A", word "FD", word "END", word "A"]
    let start : Machine := { fresh 4 with frames := [.start p 0 0] }
    let defined := start.step.2
    let called := defined.step.2
    (∃ spent f f' outer, start.step = (.moved none, defined) ∧
      start.frames = spent ++ f :: outer ∧ f.Advances f' ∧
      SingleChange start (f' :: outer) [] defined) ∧
    (∃ spent f f' outer, defined.step = (.moved none, called) ∧
      defined.frames = spent ++ f :: outer ∧ f.Advances f' ∧
      SingleChange defined (f' :: outer) [] called) ∧
    ∃ d m', called.frames.length = 2 ∧ called.step = (.failed d, m') ∧
      m' = { called with frames := [], steps := 3 } ∧
      ∀ n, ((fun later : Machine => later.step.2)^[n] m').step = (.done, m') := by
  intro word p start defined called
  have defines : start.step = (.moved none, defined) := rfl
  have calls : defined.step = (.moved none, called) := rfl
  have fails : ∃ d m', called.step = (.failed d, m') := ⟨_, _, rfl⟩
  refine ⟨?_, ?_, ?_⟩
  · obtain ⟨spent, f, f', outer, parts, _, advances, change⟩ :=
      (steps_are_atomic start).2.2 none defined defines
    exact ⟨spent, f, f', outer, defines, parts, advances, change⟩
  · obtain ⟨spent, f, f', outer, parts, _, advances, change⟩ :=
      (steps_are_atomic defined).2.2 none called calls
    exact ⟨spent, f, f', outer, calls, parts, advances, change⟩
  · obtain ⟨d, m', step⟩ := fails
    obtain ⟨_, left, later⟩ := (steps_are_atomic called).1 d m' step
    exact ⟨d, m', rfl, step, left, later⟩

end Machine

end TurtleLogo
