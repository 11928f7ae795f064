import TurtleLogo.Machine

/-!
# Why runs end

A frame can only do finitely much: each head it carries out shortens what is left of its pass, and
each new pass takes one from the passes left. Opening a frame may start any amount of new work, but
only behind such a loss in the frame below. So the stack, read from the outermost frame inwards,
descends lexicographically with every step, and because the number of frames is bounded this order
is well-founded. `step_descends` states the descent and `step_within` the bound.
-/

set_option autoImplicit false

namespace TurtleLogo

namespace Machine

def Levels : Nat → Type
  | 0 => Unit
  | n + 1 => (Nat × Nat) × Levels n

def Below (a b : Nat × Nat) : Prop :=
  a.1 < b.1 ∨ a.1 = b.1 ∧ a.2 < b.2

def Levels.Lt : {n : Nat} → Levels n → Levels n → Prop
  | 0, _, _ => False
  | _ + 1, a, b => Below a.1 b.1 ∨ a.1 = b.1 ∧ Levels.Lt a.2 b.2

theorem Below.trans {a b c : Nat × Nat} (first : Below a b) (second : Below b c) : Below a c := by
  unfold Below at *
  omega

theorem Below.wellFounded : WellFounded Below := by
  refine Subrelation.wf ?_ (Prod.lex Nat.lt_wfRel Nat.lt_wfRel).wf
  intro a b below
  obtain ⟨a₁, a₂⟩ := a
  obtain ⟨b₁, b₂⟩ := b
  rcases below with less | ⟨same, less⟩
  · exact Prod.Lex.left _ _ less
  · simp only at same less
    subst same
    exact Prod.Lex.right _ less

theorem Levels.Lt.trans {n : Nat} {a b c : Levels n} (first : a.Lt b) (second : b.Lt c) :
    a.Lt c := by
  induction n with
  | zero => exact first.elim
  | succ n ih =>
    rcases first with below | ⟨same, less⟩
    · rcases second with below' | ⟨same', _⟩
      · exact .inl (below.trans below')
      · exact .inl (same' ▸ below)
    · rcases second with below' | ⟨same', less'⟩
      · exact .inl (same ▸ below')
      · exact .inr ⟨same.trans same', ih less less'⟩

theorem Levels.wellFounded : (n : Nat) → WellFounded (Levels.Lt (n := n))
  | 0 => ⟨fun _ => ⟨_, fun _ impossible => impossible.elim⟩⟩
  | n + 1 => by
    refine Subrelation.wf ?_ (Prod.lex ⟨Below, Below.wellFounded⟩ ⟨_, Levels.wellFounded n⟩).wf
    intro a b less
    obtain ⟨a₁, a₂⟩ := a
    obtain ⟨b₁, b₂⟩ := b
    rcases less with below | ⟨same, less⟩
    · exact Prod.Lex.left _ _ below
    · simp only at same less
      subst same
      exact Prod.Lex.right _ less

instance levelsOrder (n : Nat) : WellFoundedRelation (Levels n) :=
  ⟨Levels.Lt, Levels.wellFounded n⟩

/-- What a frame can still do: the passes left, and the tokens left in this one. Every frame weighs
more than none. -/
def weight (f : Frame) : Nat × Nat :=
  (f.again, f.rest.length + 1)

def levels : (n : Nat) → List Frame → Levels n
  | 0, _ => ()
  | n + 1, [] => ((0, 0), levels n [])
  | n + 1, f :: inner => (weight f, levels n inner)

/-- What the frames of a stack, innermost first, can still do within `n` levels. -/
def work (n : Nat) (frames : List Frame) : Levels n :=
  levels n frames.reverse

theorem levels_lt_of_weight {n : Nat} (outer : List Frame) {f g : Frame} (inner inner' : List Frame)
    (fits : outer.length < n) (less : Below (weight f) (weight g)) :
    (levels n (outer ++ f :: inner)).Lt (levels n (outer ++ g :: inner')) := by
  induction outer generalizing n with
  | nil =>
    cases n with
    | zero => simp at fits
    | succ n => exact .inl less
  | cons h outer ih =>
    cases n with
    | zero => simp at fits
    | succ n => exact .inr ⟨rfl, ih (by simpa using fits)⟩

theorem levels_lt_of_leave {n : Nat} (outer : List Frame) (f : Frame) (fits : outer.length < n) :
    (levels n outer).Lt (levels n (outer ++ [f])) := by
  induction outer generalizing n with
  | nil =>
    cases n with
    | zero => simp at fits
    | succ n =>
      have heavier : Below (0, 0) (weight f) := by
        simp only [Below, weight]
        omega
      exact .inl heavier
  | cons h outer ih =>
    cases n with
    | zero => simp at fits
    | succ n => exact .inr ⟨rfl, ih (by simpa using fits)⟩

/-- Replacing a frame by one that weighs less leaves less to do, whatever is opened inside it. -/
theorem work_lt_of_weight {n : Nat} {f g : Frame} (outer inner inner' : List Frame)
    (fits : outer.length < n) (less : Below (weight f) (weight g)) :
    (work n (inner ++ f :: outer)).Lt (work n (inner' ++ g :: outer)) := by
  simpa [work] using
    levels_lt_of_weight outer.reverse inner.reverse inner'.reverse (by simpa using fits) less

theorem work_lt_of_leave {n : Nat} (f : Frame) (outer : List Frame) (fits : outer.length < n) :
    (work n outer).Lt (work n (f :: outer)) := by
  simpa [work] using levels_lt_of_leave outer.reverse f (by simpa using fits)

theorem argument_length {line : Int} {what : Text} {p : Program} {t : Token} {rest : Program}
    (taken : argument line what p = .ok (t, rest)) : rest.length < p.length := by
  cases p with
  | nil => simp [argument] at taken
  | cons head tail =>
    simp only [argument, Except.ok.injEq, Prod.mk.injEq] at taken
    simp [taken.2]

theorem splitBlock_length {depth : Nat} {p body after : Program}
    (split : Program.splitBlock depth p = some (body, after)) : after.length ≤ p.length := by
  induction p generalizing depth body with
  | nil => simp [Program.splitBlock] at split
  | cons t rest ih =>
    have step : ∀ {d : Nat} {b : Program},
        Program.splitBlock d rest = some (b, after) → after.length ≤ (t :: rest).length := by
      intro d b inner
      have := ih inner
      simp only [List.length_cons]
      omega
    unfold Program.splitBlock at split
    split at split
    · simp only [Option.map_eq_some_iff, Prod.mk.injEq, Prod.exists] at split
      obtain ⟨_, _, inner, _, rfl⟩ := split
      exact step inner
    · split at split
      · simp only [Option.some.injEq, Prod.mk.injEq] at split
        simp [split.2]
      · simp only [Option.map_eq_some_iff, Prod.mk.injEq, Prod.exists] at split
        obtain ⟨_, _, inner, _, rfl⟩ := split
        exact step inner
    · simp only [Option.map_eq_some_iff, Prod.mk.injEq, Prod.exists] at split
      obtain ⟨_, _, inner, _, rfl⟩ := split
      exact step inner

theorem block?_length {p body after : Program} (found : Program.block? p = some (body, after)) :
    after.length ≤ p.length := by
  cases p with
  | nil => simp [Program.block?] at found
  | cons t rest =>
    simp only [Program.block?] at found
    split at found
    · have := splitBlock_length found
      simp only [List.length_cons]
      omega
    · simp at found

theorem splitDefinition_length {depth : Nat} {p body after : Program}
    (split : Program.splitDefinition depth p = some (body, after)) : after.length ≤ p.length := by
  induction p generalizing depth body with
  | nil => simp [Program.splitDefinition] at split
  | cons t rest ih =>
    have step : ∀ {d : Nat} {b : Program},
        Program.splitDefinition d rest = some (b, after) → after.length ≤ (t :: rest).length := by
      intro d b inner
      have := ih inner
      simp only [List.length_cons]
      omega
    unfold Program.splitDefinition at split
    split at split
    · simp only [Option.map_eq_some_iff, Prod.mk.injEq, Prod.exists] at split
      obtain ⟨_, _, inner, _, rfl⟩ := split
      exact step inner
    · split at split
      · split at split
        · simp only [Option.some.injEq, Prod.mk.injEq] at split
          simp [split.2]
        · simp only [Option.map_eq_some_iff, Prod.mk.injEq, Prod.exists] at split
          obtain ⟨_, _, inner, _, rfl⟩ := split
          exact step inner
      · simp only [Option.map_eq_some_iff, Prod.mk.injEq, Prod.exists] at split
        obtain ⟨_, _, inner, _, rfl⟩ := split
        exact step inner

theorem withNumber_length {tables : Tables} {line : Int} {name what : Text} {rest rest' : Program}
    {effect : Float → Effect} {e : Effect}
    (done : withNumber tables line name what rest effect = .ok (e, rest')) :
    rest'.length ≤ rest.length := by
  unfold withNumber at done
  split at done
  · simp at done
  · rename_i taken
    split at done
    · simp at done
    · simp only [Except.ok.injEq, Prod.mk.injEq] at done
      have := argument_length taken
      rw [done.2] at this
      omega

theorem interpretVariable_length {tables : Tables} {line : Int} {rest rest' : Program} {e : Effect}
    (done : interpretVariable tables line rest = .ok (e, rest')) : rest'.length ≤ rest.length := by
  unfold interpretVariable at done
  split at done
  · simp at done
  · rename_i first
    split at done
    · simp at done
    · rename_i second
      split at done
      · simp at done
      · simp only [Except.ok.injEq, Prod.mk.injEq] at done
        have := argument_length first
        have := argument_length second
        rw [done.2] at this
        omega

theorem interpretDefinition_length {line : Int} {rest rest' : Program} {e : Effect}
    (done : interpretDefinition line rest = .ok (e, rest')) : rest'.length ≤ rest.length := by
  unfold interpretDefinition at done
  split at done
  · simp at done
  · rename_i taken
    simp only at done
    split at done
    · simp at done
    · rename_i found
      simp only [Except.ok.injEq, Prod.mk.injEq] at done
      have := argument_length taken
      have := splitDefinition_length found
      rw [done.2] at this
      omega

theorem interpretLoop_length {tables : Tables} {line : Int} {rest rest' : Program} {e : Effect}
    (done : interpretLoop tables line rest = .ok (e, rest')) : rest'.length ≤ rest.length := by
  unfold interpretLoop at done
  split at done
  · simp at done
  · rename_i taken
    split at done
    · simp at done
    · split at done
      · simp at done
      · split at done
        · simp at done
        · rename_i found
          have := argument_length taken
          have := block?_length found
          split at done <;>
          · simp only [Except.ok.injEq, Prod.mk.injEq] at done
            rw [done.2] at this
            omega

/-- A head takes its arguments from the tokens behind it and never gives any back. -/
theorem interpret_length {tables : Tables} {head : Token} {rest rest' : Program} {e : Effect}
    (done : interpret tables head rest = .ok (e, rest')) : rest'.length ≤ rest.length := by
  unfold interpret at done
  simp only at done
  split at done
  · rename_i command _
    cases command <;> simp only [interpretCommand] at done
    case makeVariable => exact interpretVariable_length done
    case define => exact interpretDefinition_length done
    case loop => exact interpretLoop_length done
    case forward => exact withNumber_length done
    case back => exact withNumber_length done
    case right => exact withNumber_length done
    case left => exact withNumber_length done
    case setColor =>
      split at done
      · simp at done
      · rename_i taken
        simp only [Except.ok.injEq, Prod.mk.injEq] at done
        have := argument_length taken
        rw [done.2] at this
        omega
    all_goals
      simp only [Except.ok.injEq, Prod.mk.injEq] at done
      simp [done.2]
  · split at done
    · simp only [Except.ok.injEq, Prod.mk.injEq] at done
      simp [done.2]
    · simp at done

/-- Coming to the next head loses no frame around it, and leaves no more to do than before: whatever
is opened in place of its frame, if that frame has lost a token there is less. -/
theorem next?_descends {n : Nat} {frames : List Frame} {focus : Focus} (fits : frames.length ≤ n)
    (found : next? frames = some focus) (rest : Program)
    (shorter : rest.length ≤ focus.rest.length) (inner : List Frame) :
    focus.outer.length < frames.length ∧
      (work n (inner ++ { focus.frame with rest := rest } :: focus.outer)).Lt (work n frames) := by
  induction frames with
  | nil => simp [next?] at found
  | cons f outer ih =>
    have room : outer.length < n := Nat.lt_of_succ_le (by simpa using fits)
    unfold next? at found
    split at found
    · rename_i head tail _ _ restEq
      simp only [Option.some.injEq] at found
      subst found
      refine ⟨by simp, ?_⟩
      refine work_lt_of_weight outer inner [] room ?_
      simp only at shorter
      refine .inr ⟨rfl, ?_⟩
      simp only [weight, restEq, List.length_cons]
      omega
    · rename_i again head tail restEq againEq bodyEq
      simp only [Option.some.injEq] at found
      subst found
      refine ⟨by simp, ?_⟩
      refine work_lt_of_weight outer inner [] room ?_
      refine .inl ?_
      simp only [weight, againEq]
      omega
    · obtain ⟨fewer, less⟩ := ih (by omega) found
      exact ⟨by simp only [List.length_cons]; omega, less.trans (work_lt_of_leave f outer room)⟩

theorem step_descends {n : Nat} {m m' : Machine} {i : Option Instruction}
    (fits : m.frames.length ≤ n) (moved : m.step = (.moved i, m')) :
    (work n m'.frames).Lt (work n m.frames) := by
  unfold step at moved
  split at moved
  · simp at moved
  · rename_i head rest f outer found
    split at moved
    · simp [abort] at moved
    · rename_i effect rest' interpreted
      have shorter := interpret_length interpreted
      have descends := fun inner =>
        (next?_descends fits found rest' shorter inner).2
      cases effect <;> simp only [perform] at moved
      case enter body again =>
        split at moved
        · simp [abort] at moved
        · simp only [Prod.mk.injEq] at moved
          rw [← moved.2]
          exact descends [Frame.start body again head.line]
      all_goals
        simp only [Prod.mk.injEq] at moved
        rw [← moved.2]
        exact descends []

theorem step_limit {m m' : Machine} {p : Progress} (stepped : m.step = (p, m')) :
    m'.limit = m.limit := by
  suffices same : m'.maxDepth = m.maxDepth by simp [limit, same]
  unfold step at stepped
  split at stepped
  · simp only [Prod.mk.injEq] at stepped
    simp [← stepped.2]
  · split at stepped
    · simp only [abort, Prod.mk.injEq] at stepped
      simp [← stepped.2]
    · rename_i effect _ _
      cases effect <;> simp only [perform] at stepped
      case enter =>
        split at stepped <;>
        · simp only [abort, Prod.mk.injEq] at stepped
          simp [← stepped.2]
      all_goals
        simp only [Prod.mk.injEq] at stepped
        simp [← stepped.2]

structure Within (n : Nat) (m : Machine) : Prop where
  limit_eq : m.limit = n
  depth_le : m.frames.length ≤ n

theorem step_within {n : Nat} {m m' : Machine} {p : Progress} (within : m.Within n)
    (stepped : m.step = (p, m')) : m'.Within n := by
  refine ⟨(step_limit stepped).trans within.limit_eq, ?_⟩
  have fits := within.depth_le
  have limitEq := within.limit_eq
  unfold step at stepped
  split at stepped
  · simp only [Prod.mk.injEq] at stepped
    simp [← stepped.2]
  · rename_i head rest f outer found
    split at stepped
    · simp only [abort, Prod.mk.injEq] at stepped
      simp [← stepped.2]
    · rename_i effect rest' interpreted
      have fewer := (next?_descends fits found rest' (interpret_length interpreted) []).1
      simp only at fewer
      cases effect <;> simp only [perform] at stepped
      case enter =>
        split at stepped
        · simp only [abort, Prod.mk.injEq] at stepped
          simp [← stepped.2]
        · rename_i room
          simp only [Prod.mk.injEq] at stepped
          simp only [← stepped.2, List.length_cons] at room ⊢
          omega
      all_goals
        simp only [Prod.mk.injEq] at stepped
        simp only [← stepped.2, List.length_cons]
        omega

theorem limit_pos (m : Machine) : 0 < m.limit := by
  unfold limit
  split
  · simp [defaultMaxDepth]
  · omega

theorem load_within {m m' : Machine} {p : Program} (loaded : m.load p = .ok m') :
    m'.Within m'.limit := by
  refine ⟨rfl, ?_⟩
  refine Nat.le_trans ?_ (limit_pos m')
  unfold load at loaded
  split at loaded
  · simp at loaded
  · simp only [Except.ok.injEq] at loaded
    subst loaded
    simp only
    split <;> simp

end Machine

end TurtleLogo
