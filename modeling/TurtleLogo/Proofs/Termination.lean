import TurtleLogo.Proofs.Trace

/-!
# Every run ends

Two loops carry a run. The inner one looks for the next head: in each turn a frame at its end either
starts over, which costs it a pass, or is left. The outer one takes step after step, and its stack
descends in the order of `Machine.work`. Neither can go on for ever, whatever the tables hold and
however procedures call or redefine each other.
-/

set_option autoImplicit false

namespace TurtleLogo

namespace Machine

/-! ## The search for the next head -/

/-- One turn of the search for the next head. A frame at its end starts over if it has passes left,
and is left otherwise. There is no further turn once a head is found or no frame is open. -/
def turn? : List Frame → Option (List Frame)
  | [] => none
  | f :: outer =>
    match f.rest, f.again with
    | _ :: _, _ => none
    | [], again + 1 => some ({ f with rest := f.body, again := again } :: outer)
    | [], 0 => some outer

inductive Turns : List Frame → Nat → List Frame → Prop
  | zero (frames : List Frame) : Turns frames 0 frames
  | succ {frames middle frames' : List Frame} {j : Nat} (turn : turn? frames = some middle)
      (later : Turns middle j frames') : Turns frames (j + 1) frames'

def Focus.stack (focus : Focus) : List Frame :=
  { focus.frame with rest := focus.head :: focus.rest } :: focus.outer

/-- The stack at which the search for the next head stops: none at all if there is no head left. -/
def settled (frames : List Frame) : List Frame :=
  match next? frames with
  | none => []
  | some focus => focus.stack

theorem settled_of_found {frames : List Frame} {focus : Focus} (found : next? frames = some focus) :
    settled frames = focus.stack := by
  rw [settled, found]

theorem turn?_settled (frames : List Frame) : turn? (settled frames) = none := by
  unfold settled
  cases next? frames with
  | none => rfl
  | some focus => rfl

theorem settled_of_head {f : Frame} {outer : List Frame} {head : Token} {tail : Program}
    (rest : f.rest = head :: tail) : settled (f :: outer) = f :: outer := by
  obtain ⟨body, tokens, again, opened⟩ := f
  simp only at rest
  subst rest
  rfl

theorem settled_of_turn {frames frames' : List Frame} (turn : turn? frames = some frames') :
    settled frames = settled frames' := by
  cases frames with
  | nil => cases turn
  | cons f outer =>
    obtain ⟨body, rest, again, opened⟩ := f
    cases rest with
    | cons head tail => cases turn
    | nil =>
      cases again with
      | zero =>
        cases turn
        rfl
      | succ again =>
        cases turn
        cases body with
        | nil => cases again <;> rfl
        | cons head tail => rfl

/-- The search for the next head ends, at the head that the machine carries out next. -/
theorem exists_turns_settled (frames : List Frame) : ∃ j, Turns frames j (settled frames) := by
  induction frames with
  | nil => exact ⟨0, .zero []⟩
  | cons f outer ih =>
    obtain ⟨body, rest, again, opened⟩ := f
    -- Starting over costs a pass, also when there are no tokens to go over.
    induction again generalizing rest with
    | zero =>
      cases rest with
      | cons head tail => exact ⟨0, .zero _⟩
      | nil =>
        have turn : turn? (⟨body, [], 0, opened⟩ :: outer) = some outer := rfl
        obtain ⟨j, turns⟩ := ih
        rw [settled_of_turn turn]
        exact ⟨j + 1, .succ turn turns⟩
    | succ again startOver =>
      cases rest with
      | cons head tail => exact ⟨0, .zero _⟩
      | nil =>
        have turn : turn? (⟨body, [], again + 1, opened⟩ :: outer) =
            some (⟨body, body, again, opened⟩ :: outer) := rfl
        obtain ⟨j, turns⟩ := startOver body
        rw [settled_of_turn turn]
        exact ⟨j + 1, .succ turn turns⟩

/-! ## Step after step -/

theorem exists_ends {n : Nat} {m : Machine} (within : m.Within n) :
    ∃ k is fault final, m.Ends k is fault final := by
  generalize measure : work n m.frames = weights
  induction weights using (levelsOrder n).wf.induction generalizing m with
  | h weights ih =>
    cases step : m.step with
    | mk progress middle =>
      cases progress with
      | done => exact ⟨0, [], none, middle, m, .zero m, step⟩
      | failed d => exact ⟨0, [], some d, middle, m, .zero m, step⟩
      | moved i =>
        have less := step_descends within.depth_le step
        rw [measure] at less
        obtain ⟨k, is, fault, final, ends⟩ := ih _ less (step_within within step) rfl
        exact ⟨k + 1, i.toList ++ is, fault, final, ends.succ step⟩

theorem runProgram_refused {m : Machine} {p : Program} {d : Diagnostic} (refused : m.load p = .error d)
    (waits : Waits) : m.runProgram p waits = ⟨m, [], 0, some (.diagnosed d)⟩ := by
  unfold runProgram
  split
  · rename_i d' refused'
    rw [refused] at refused'
    cases refused'
    rfl
  · rename_i loaded load
    rw [refused] at load
    cases load

theorem runProgram_loaded {m loaded : Machine} {p : Program} (load : m.load p = .ok loaded)
    (waits : Waits) : m.runProgram p waits = finish waits loaded (load_within load) [] 0 := by
  unfold runProgram
  split
  · rename_i d refused
    rw [load] at refused
    cases refused
  · rename_i loaded' load'
    rw [load] at load'
    cases load'
    rfl

theorem runProgram_never {m loaded final : Machine} {p : Program} {k : Nat}
    {is : List Instruction} {fault : Option Diagnostic} (load : m.load p = .ok loaded)
    (ends : loaded.Ends k is fault final) :
    m.runProgram p Waits.never = ⟨final, is, k, fault.map .diagnosed⟩ := by
  rw [runProgram_loaded load, finish_never ends]
  simp

/-- What the waits of a run are matters only if one of them breaks it off. -/
theorem run_of_undisturbed {m : Machine} {src : Text} {waits : Waits}
    (undisturbed : (m.run src waits).undisturbed) : m.run src waits = m.run src Waits.never := by
  unfold run at undisturbed ⊢
  cases load : m.load (Token.scan src) with
  | error d => rw [runProgram_refused load, runProgram_refused load]
  | ok loaded =>
    obtain ⟨k, is, fault, final, ends⟩ := exists_ends (load_within load)
    rw [runProgram_loaded load] at undisturbed ⊢
    rw [runProgram_loaded load]
    exact finish_of_undisturbed ends _ _ _ undisturbed

/-- A machine that has loaded a program comes to the end of its run after finitely many steps, and
each step on the way finds its head after finitely many turns. So a run of any source text returns,
unless something makes its waits fail. -/
theorem every_run_ends (m : Machine) :
    (∀ (p : Program) (loaded : Machine), m.load p = .ok loaded →
      (∃ k is fault final, loaded.Ends k is fault final ∧
        m.runProgram p Waits.never = ⟨final, is, k, fault.map .diagnosed⟩) ∧
      ∀ k is reached, loaded.Moves k is reached →
        ∃ j, Turns reached.frames j (settled reached.frames) ∧
          turn? (settled reached.frames) = none) ∧
    ∀ src : Text,
      (∃ d, m.load (Token.scan src) = .error d ∧
        m.run src Waits.never = ⟨m, [], 0, some (.diagnosed d)⟩) ∨
      ∃ loaded k is fault final, m.load (Token.scan src) = .ok loaded ∧
        loaded.Ends k is fault final ∧
        m.run src Waits.never = ⟨final, is, k, fault.map .diagnosed⟩ := by
  have programs : ∀ (p : Program) (loaded : Machine), m.load p = .ok loaded →
      ∃ k is fault final, loaded.Ends k is fault final ∧
        m.runProgram p Waits.never = ⟨final, is, k, fault.map .diagnosed⟩ := by
    intro p loaded load
    obtain ⟨k, is, fault, final, ends⟩ := exists_ends (load_within load)
    exact ⟨k, is, fault, final, ends, runProgram_never load ends⟩
  refine ⟨?_, ?_⟩
  · intro p loaded load
    refine ⟨programs p loaded load, ?_⟩
    intro k is reached _
    obtain ⟨j, turns⟩ := exists_turns_settled reached.frames
    exact ⟨j, turns, turn?_settled reached.frames⟩
  · intro src
    cases load : m.load (Token.scan src) with
    | error d => exact .inl ⟨d, rfl, runProgram_refused load Waits.never⟩
    | ok loaded =>
      obtain ⟨k, is, fault, final, ends, result⟩ := programs _ loaded load
      exact .inr ⟨loaded, k, is, fault, final, rfl, ends, result⟩

/-- The run of two procedures that only call each other ends, too. -/
theorem every_run_ends_mutual :
    let word (name : String) : Token := ⟨.word, utf8 name, 1⟩
    let p : Program := [word "DEF", word "A", word "B", word "END", word "DEF", word "B", word "A",
      word "END", word "A"]
    ∃ loaded, (fresh 3).load p = .ok loaded ∧
      ∃ k is fault final, loaded.Ends k is fault final ∧
        (fresh 3).runProgram p Waits.never = ⟨final, is, k, fault.map .diagnosed⟩ := by
  intro word p
  exact ⟨_, rfl, ((every_run_ends (fresh 3)).1 p _ rfl).1⟩

end Machine

end TurtleLogo
