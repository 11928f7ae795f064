import TurtleLogo.Proofs.Integrity
import TurtleLogo.Proofs.SelfContained
import TurtleLogo.Proofs.Waiting

/-!
# What machines inherit from source texts

A machine runs nothing but what it takes out of the programs that were loaded: what is left behind a
head, the inside of a block, the body of a procedure. So a property of programs that passes on in
these three ways holds of everything that a machine runs or keeps, whatever is done with it, as soon
as it holds of the source texts.
-/

set_option autoImplicit false

namespace TurtleLogo

/-- The body of a procedure is the one that an effect keeps, or it was known before. -/
theorem Effect.procedure_of_update {tables : Tables} {effect : Effect} {name : Text} {body : Program}
    (known : (effect.update tables).procedures.get? name = some body) :
    effect.body? = some body ∨ tables.procedures.get? name = some body := by
  cases effect with
  | define other kept =>
    simp only [update, Table.get?_set] at known
    by_cases same : name = other
    · rw [if_pos same] at known
      exact .inl known
    · rw [if_neg same] at known
      exact .inr known
  | nothing | draw | assign | enter => exact .inr known

namespace Program

/-- A property that passes on from a program to whatever a machine takes out of it. -/
structure Inherited (holds : Program → Prop) : Prop where
  rest : ∀ {p q : Program}, holds p → q <:+ p → holds q
  block : ∀ {p body after : Program}, holds p → block? p = some (body, after) → holds body
  definition : ∀ {head name : Token} {p body after : Program}, head.command? = some .define →
    holds (head :: name :: p) → definition? p = some (body, after) → holds body

namespace Inherited

variable {holds : Program → Prop} (inherited : Inherited holds) {tables : Tables} {head : Token}
  {rest after : Program} {effect : Effect}

include inherited

theorem behind (here : holds (head :: rest)) (done : Interpreted tables head rest effect after) :
    holds after :=
  inherited.rest here (done.after_ends.trans (List.suffix_cons head rest))

/-- The body that a head opens or keeps inherits from the program, or from the table. -/
theorem body {body : Program} (here : holds (head :: rest))
    (known : ∀ name body, tables.procedures.get? name = some body → holds body)
    (done : Interpreted tables head rest effect after) (has : effect.body? = some body) :
    holds body := by
  cases done with
  | assignment | noLoop | motion | color => cases has
  | definition command found =>
    cases has
    exact inherited.definition command here found
  | @loop t tokens _ _ _ _ command value counts found busy =>
    cases has
    have behind : tokens <:+ head :: t :: tokens := ⟨[head, t], rfl⟩
    exact inherited.block (inherited.rest here behind) found
  | bare named acts =>
    rename_i command
    cases command <;> cases acts <;> cases has
  | call named stored =>
    cases has
    exact known _ _ stored

end Inherited

end Program

namespace Machine

/-! ## One step -/

/-- All that a machine is running, and all that it could call, has the property. -/
structure Carries (holds : Program → Prop) (m : Machine) : Prop where
  frames : ∀ f ∈ m.frames, holds f.body ∧ holds f.rest
  procedures : ∀ name body, m.tables.procedures.get? name = some body → holds body

namespace Carries

variable {holds : Program → Prop} {m : Machine} (carries : m.Carries holds)

include carries

theorem restacked {frames : List Frame} (each : ∀ f ∈ frames, holds f.body ∧ holds f.rest)
    (steps : Nat) : Carries holds { m with frames := frames, steps := steps } :=
  ⟨each, carries.procedures⟩

theorem closed (steps : Nat) : Carries holds { m with frames := [], steps := steps } :=
  carries.restacked (fun _ member => by cases member) steps

theorem step (inherited : Program.Inherited holds) : m.step.2.Carries holds := by
  have stepped := step_stepped m
  generalize m.step.1 = progress at stepped
  generalize m.step.2 = m' at stepped
  cases stepped with
  | ended exhausted => exact carries.closed m.steps
  | refused found interpreted => exact carries.closed (m.steps + 1)
  | blocked found interpreted full => exact carries.closed (m.steps + 1)
  | @opened head rest after body f outer again found interpreted room =>
    obtain ⟨here, whole, others⟩ := next?_holds carries.frames found
    have done := interpreted_of_interpret interpreted
    have opened : holds body := inherited.body here carries.procedures done rfl
    have left : holds after := inherited.behind here done
    apply carries.restacked
    intro g member
    rcases List.mem_cons.mp member with rfl | member
    · exact ⟨opened, opened⟩
    · rcases List.mem_cons.mp member with rfl | member
      · exact ⟨whole, left⟩
      · exact others g member
  | @carriedOut head rest after f outer effect found interpreted plain =>
    obtain ⟨here, whole, others⟩ := next?_holds carries.frames found
    have done := interpreted_of_interpret interpreted
    refine ⟨?_, ?_⟩
    · intro g member
      rcases List.mem_cons.mp member with rfl | member
      · exact ⟨whole, inherited.behind here done⟩
      · exact others g member
    · intro name body known
      rcases Effect.procedure_of_update known with kept | before
      · exact inherited.body here carries.procedures done kept
      · exact carries.procedures name body before

theorem load {loaded : Machine} {p : Program} (program : holds p) (load : m.load p = .ok loaded) :
    loaded.Carries holds := by
  rw [eq_of_load load]
  apply carries.restacked
  intro f member
  split at member
  · cases member
  · cases List.mem_singleton.mp member
    exact ⟨program, program⟩

end Carries

/-! ## All reachable machines -/

/-- What a fresh machine has, and what loading a source text that is admitted, stepping, breaking off
and resetting all leave in place. -/
structure Upheld (maxDepth : Int) (admitted : Text → Prop) (kept : Machine → Prop) : Prop where
  fresh : kept (.fresh maxDepth)
  load : ∀ {m loaded : Machine} {src : Text}, admitted src → kept m →
    m.load (Token.scan src) = .ok loaded → kept loaded
  step : ∀ {m : Machine}, kept m → kept m.step.2
  closed : ∀ {m : Machine}, kept m → kept { m with frames := [] }
  reset : ∀ {m : Machine}, kept m → kept m.reset

section Reached

variable {maxDepth : Int} {sources : List Text} {m : Machine}

theorem Upheld.reached {admitted : Text → Prop} {kept : Machine → Prop}
    (upheld : Upheld maxDepth admitted kept) (reached : Reached maxDepth sources m)
    (all : ∀ src ∈ sources, admitted src) : kept m := by
  induction reached with
  | fresh => exact upheld.fresh
  | loaded before load ih =>
    obtain ⟨this, others⟩ := List.forall_mem_cons.mp all
    exact upheld.load this (ih others) load
  | @stepped sources m m' progress before step ih =>
    have after : m.step.2 = m' := by rw [step]
    rw [← after]
    exact upheld.step (ih all)
  | ran before load waits ih =>
    obtain ⟨this, others⟩ := List.forall_mem_cons.mp all
    apply run_keeps kept
    · intro m held
      exact upheld.step held
    · intro m held
      exact upheld.closed held
    · intro loaded load
      exact upheld.load this (ih others) load
    · exact ih others
  | reset before ih => exact upheld.reset (ih all)

theorem upheld_carries {admitted : Text → Prop} {holds : Program → Prop}
    (inherited : Program.Inherited holds)
    (programs : ∀ src, admitted src → Program.fault? (Token.scan src) = none →
      holds (Token.scan src)) :
    Upheld maxDepth admitted (Carries holds) where
  fresh := ⟨nofun, nofun⟩
  load this carries load := carries.load (programs _ this (balanced_of_load load)) load
  step carries := carries.step inherited
  closed carries := carries.closed _
  reset _ := ⟨nofun, nofun⟩

theorem Reached.moves {m' : Machine} {k : Nat} {is : List Instruction}
    (reached : Reached maxDepth sources m) (moves : m.Moves k is m') :
    Reached maxDepth sources m' := by
  induction moves with
  | zero m => exact reached
  | succ step later ih => exact ih (reached.stepped step)

/-- Every instruction of a run is given by the step of a machine that can be reached. -/
theorem Reached.step_of_mem_run (reached : Reached maxDepth sources m) {src : Text} {waits : Waits}
    {i : Instruction} (given : i ∈ (m.run src waits).instructions) :
    ∃ before after, Reached maxDepth (src :: sources) before ∧
      before.step = (.moved (some i), after) := by
  cases load : m.load (Token.scan src) with
  | error d =>
    rw [run, runProgram_refused load] at given
    cases given
  | ok loaded =>
    obtain ⟨k, is, before, after, moves, gives⟩ := (proceeds_run load waits).step_of_mem given
    exact ⟨before, after, (reached.loaded load).moves moves, gives⟩

/-- The diagnostic of a run whose brackets are balanced comes from such a step, too. -/
theorem Reached.step_of_failed_run (reached : Reached maxDepth sources m) {src : Text}
    {waits : Waits} {d : Diagnostic} (balanced : Program.fault? (Token.scan src) = none)
    (failed : (m.run src waits).error = some (.diagnosed d)) :
    ∃ before after, Reached maxDepth (src :: sources) before ∧ before.step = (.failed d, after) := by
  have load := load_of_balanced m balanced
  obtain ⟨k, is, before, after, moves, fails⟩ := (proceeds_run load waits).step_of_failed failed
  exact ⟨before, after, (reached.loaded load).moves moves, fails⟩

end Reached

end Machine

end TurtleLogo
