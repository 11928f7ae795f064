import Mathlib
import TurtleLogo.Machine.Run

/-!
# Steps and traces

`Stepped` lists all that a single step can do. Everything said about whole runs rests on it and on
two notions of stepping a machine on: `Moves` follows some number of steps that all move, and `Ends`
follows them up to the step that reports the end. A run whose waits all go well is what `Ends`
describes.
-/

set_option autoImplicit false

namespace TurtleLogo

namespace Effect

def update (tables : Tables) : Effect → Tables
  | .assign name x => { tables with values := tables.values.set name x }
  | .define name body => { tables with procedures := tables.procedures.set name body }
  | _ => tables

def instruction? : Effect → Option Instruction
  | .draw i => some i
  | _ => none

def opens : Effect → Bool
  | .enter _ _ => true
  | _ => false

end Effect

def Run.undisturbed (r : Run) : Bool :=
  match r.error with
  | some (.interrupted _ _) => false
  | _ => true

namespace Machine

inductive Stepped (m : Machine) : Progress → Machine → Prop
  | ended (exhausted : next? m.frames = none) : Stepped m .done { m with frames := [] }
  | refused {head : Token} {rest : Program} {f : Frame} {outer : List Frame} {d : Diagnostic}
      (found : next? m.frames = some ⟨head, rest, f, outer⟩)
      (interpreted : interpret m.tables head rest = .error d) :
      Stepped m (.failed (tagged d head.line (f :: outer)))
        { m with frames := [], steps := m.steps + 1 }
  | blocked {head : Token} {rest after body : Program} {f : Frame} {outer : List Frame} {again : Nat}
      (found : next? m.frames = some ⟨head, rest, f, outer⟩)
      (interpreted : interpret m.tables head rest = .ok (.enter body again, after))
      (full : m.limit ≤ outer.length + 1) :
      Stepped m (.failed (tagged ⟨.tooDeep m.limit, head.line⟩ head.line (f :: outer)))
        { m with frames := [], steps := m.steps + 1 }
  | opened {head : Token} {rest after body : Program} {f : Frame} {outer : List Frame} {again : Nat}
      (found : next? m.frames = some ⟨head, rest, f, outer⟩)
      (interpreted : interpret m.tables head rest = .ok (.enter body again, after))
      (room : outer.length + 1 < m.limit) :
      Stepped m (.moved none)
        { m with
          frames := Frame.start body again head.line :: { f with rest := after } :: outer
          steps := m.steps + 1 }
  | carriedOut {head : Token} {rest after : Program} {f : Frame} {outer : List Frame}
      {effect : Effect} (found : next? m.frames = some ⟨head, rest, f, outer⟩)
      (interpreted : interpret m.tables head rest = .ok (effect, after))
      (plain : effect.opens = false) :
      Stepped m (.moved effect.instruction?)
        { m with
          tables := effect.update m.tables
          frames := { f with rest := after } :: outer
          steps := m.steps + 1 }

theorem step_stepped (m : Machine) : Stepped m m.step.1 m.step.2 := by
  unfold step
  split
  · rename_i exhausted
    exact .ended exhausted
  · rename_i head rest f outer found
    split
    · rename_i d interpreted
      exact .refused found interpreted
    · rename_i effect after interpreted
      cases effect with
      | enter body again =>
        by_cases full : m.limit ≤ outer.length + 1
        · have blocked := Stepped.blocked found interpreted full
          simpa [perform, abort, tagged, full] using blocked
        · have opened := Stepped.opened found interpreted (Nat.lt_of_not_le full)
          simpa [perform, full] using opened
      | nothing => exact .carriedOut found interpreted rfl
      | draw i => exact .carriedOut found interpreted rfl
      | assign name x => exact .carriedOut found interpreted rfl
      | define name body => exact .carriedOut found interpreted rfl

theorem stepped_of_step {m m' : Machine} {p : Progress} (step : m.step = (p, m')) :
    Stepped m p m' := by
  have stepped := step_stepped m
  rw [step] at stepped
  exact stepped

/-- `m.Moves k is m'`: `k` steps of `m` all move; they give the instructions `is` in this order and
lead to `m'`. -/
inductive Moves : Machine → Nat → List Instruction → Machine → Prop
  | zero (m : Machine) : Moves m 0 [] m
  | succ {m middle m' : Machine} {i : Option Instruction} {k : Nat} {is : List Instruction}
      (step : m.step = (.moved i, middle)) (later : Moves middle k is m') :
      Moves m (k + 1) (i.toList ++ is) m'

def Progress.ending : Option Diagnostic → Progress
  | none => .done
  | some d => .failed d

/-- `m.Ends k is fault m'`: after `k` steps that move and give `is`, the next step reports the end of
the run, with a diagnostic if it failed, and leaves `m'`. -/
def Ends (m : Machine) (k : Nat) (is : List Instruction) (fault : Option Diagnostic)
    (m' : Machine) : Prop :=
  ∃ last, m.Moves k is last ∧ last.step = (.ending fault, m')

theorem Ends.succ {m middle m' : Machine} {i : Option Instruction} {k : Nat}
    {is : List Instruction} {fault : Option Diagnostic} (step : m.step = (.moved i, middle))
    (later : middle.Ends k is fault m') : m.Ends (k + 1) (i.toList ++ is) fault m' := by
  obtain ⟨last, moves, ending⟩ := later
  exact ⟨last, .succ step moves, ending⟩

/-! ## Runs as traces -/

theorem finish_of_ending {n : Nat} {m m' : Machine} {fault : Option Diagnostic} (waits : Waits)
    (within : m.Within n) (drawn : List Instruction) (made : Nat)
    (step : m.step = (.ending fault, m')) :
    finish waits m within drawn made = ⟨m', drawn.reverse, made, fault.map .diagnosed⟩ := by
  rw [finish]
  cases fault with
  | none =>
    split <;> simp_all [Progress.ending]
  | some d =>
    split <;> simp_all [Progress.ending]

theorem finish_of_moved {n : Nat} {m m' : Machine} {i : Option Instruction} (waits : Waits)
    (within : m.Within n) (drawn : List Instruction) (made : Nat)
    (step : m.step = (.moved i, m')) (well : waits (made + 1) = none) :
    finish waits m within drawn made =
      finish waits m' (step_within within step) (i.toList ++ drawn) (made + 1) := by
  rw [finish]
  split
  · simp_all
  · simp_all
  · rename_i j later stepped
    rw [step] at stepped
    cases stepped
    simp [well]

theorem finish_of_interrupted {n : Nat} {m m' : Machine} {i : Option Instruction}
    {reason : Interruption} (waits : Waits) (within : m.Within n) (drawn : List Instruction)
    (made : Nat) (step : m.step = (.moved i, m')) (fails : waits (made + 1) = some reason) :
    finish waits m within drawn made =
      ⟨{ m' with frames := [] }, (i.toList ++ drawn).reverse, made + 1,
        some (.interrupted m'.steps reason)⟩ := by
  rw [finish]
  split
  · simp_all
  · simp_all
  · rename_i j later stepped
    rw [step] at stepped
    cases stepped
    simp [fails]

theorem finish_never {n : Nat} {m m' : Machine} {k : Nat} {is : List Instruction}
    {fault : Option Diagnostic} (ends : m.Ends k is fault m') (within : m.Within n)
    (drawn : List Instruction) (made : Nat) :
    finish Waits.never m within drawn made =
      ⟨m', drawn.reverse ++ is, made + k, fault.map .diagnosed⟩ := by
  obtain ⟨last, moves, ending⟩ := ends
  induction moves generalizing drawn made with
  | zero m =>
    rw [finish_of_ending Waits.never within drawn made ending]
    simp
  | @succ m middle last i k is step later ih =>
    rw [finish_of_moved Waits.never within drawn made step rfl, ih _ _ _ ending]
    have instructions : (i.toList ++ drawn).reverse ++ is = drawn.reverse ++ (i.toList ++ is) := by
      cases i <;> simp
    have waits : made + 1 + k = made + (k + 1) := by omega
    rw [instructions, waits]

/-- A run that no wait broke off goes like one whose waits all go well. -/
theorem finish_of_undisturbed {n : Nat} {m m' : Machine} {k : Nat} {is : List Instruction}
    {fault : Option Diagnostic} {waits : Waits} (ends : m.Ends k is fault m') (within : m.Within n)
    (drawn : List Instruction) (made : Nat)
    (undisturbed : (finish waits m within drawn made).undisturbed) :
    finish waits m within drawn made = finish Waits.never m within drawn made := by
  obtain ⟨last, moves, ending⟩ := ends
  induction moves generalizing drawn made with
  | zero m =>
    rw [finish_of_ending waits within drawn made ending,
      finish_of_ending Waits.never within drawn made ending]
  | @succ m middle last i k is step later ih =>
    cases outcome : waits (made + 1) with
    | some reason =>
      rw [finish_of_interrupted waits within drawn made step outcome] at undisturbed
      cases undisturbed
    | none =>
      rw [finish_of_moved waits within drawn made step outcome] at undisturbed ⊢
      rw [finish_of_moved Waits.never within drawn made step rfl]
      exact ih _ _ _ undisturbed ending

end Machine

end TurtleLogo
