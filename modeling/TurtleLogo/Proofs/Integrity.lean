import TurtleLogo.Proofs.Agreement
import TurtleLogo.Proofs.Interpretation
import TurtleLogo.Proofs.Scanning

/-!
# No access fails

`Machine.Sound` is what holds of a machine in storage at all times: the frames keep to the limit and
to their tokens, all tokens in use are contiguous parts of source texts that were loaded, and what is
about to be read or written was made. Every operation keeps it, so none of them comes to a fault, and
each does what it does to the machine that the storage stands for.
-/

set_option autoImplicit false

namespace TurtleLogo

namespace Storage

def Slice (sources : List Text) (p : Program) : Prop :=
  ∃ src ∈ sources, p <:+: Token.scan src

section Slice

variable {sources : List Text} {p q : Program}

theorem Slice.part (slice : Slice sources p) (part : q <:+: p) : Slice sources q := by
  obtain ⟨src, member, whole⟩ := slice
  exact ⟨src, member, part.trans whole⟩

theorem Slice.cons (slice : Slice sources p) (src : Text) : Slice (src :: sources) p := by
  obtain ⟨src', member, whole⟩ := slice
  exact ⟨src', List.mem_cons_of_mem src member, whole⟩

/-- Variables come from source texts with their names. -/
theorem Slice.named (slice : Slice sources p) : Named p := by
  obtain ⟨src, _, whole⟩ := slice
  intro t member kind empty
  have long := Token.two_le_length_of_variable (whole.subset member) kind
  simp [empty] at long

end Slice

structure Frame.Sound (sources : List Text) (f : Frame) : Prop where
  passes_pos : 1 ≤ f.passes
  place_le : f.place ≤ f.tokens.length
  tokens_slice : Slice sources f.tokens

structure Context.Sound (sources : List Text) (c : Context) : Prop where
  values_made : c.values.isSome
  procedures_made : c.procedures.isSome
  bodies_slice : ∀ name body, c.procedure? name = some body → Slice sources body

structure Machine.Sound (maxDepth : Int) (sources : List Text) (m : Machine) : Prop where
  maxDepth_eq : m.maxDepth = maxDepth
  depth_le : m.frames.length ≤ m.limit
  frames_sound : ∀ f ∈ m.frames, f.Sound sources
  context_sound : ∀ c, m.context = some c → c.Sound sources
  context_made : m.frames ≠ [] → m.context.isSome

section Parts

variable {sources : List Text}

theorem Frame.Sound.rewound {f : Frame} (sound : f.Sound sources) (more : 0 < f.passes - 1) :
    Frame.Sound sources { f with place := 0, passes := f.passes - 1 } :=
  ⟨more, Nat.zero_le _, sound.tokens_slice⟩

theorem Frame.Sound.before {f : Frame} (sound : f.Sound sources) (rest : Program) :
    (f.before rest).Sound sources :=
  ⟨sound.passes_pos, Nat.sub_le _ _, sound.tokens_slice⟩

theorem settle_sound {frames : List Frame} (sound : ∀ f ∈ frames, f.Sound sources) :
    ∀ f ∈ settle frames, f.Sound sources := by
  fun_induction settle frames with
  | case1 => exact sound
  | case2 f outer ending more ih =>
    obtain ⟨innermost, others⟩ := List.forall_mem_cons.mp sound
    exact ih (List.forall_mem_cons.mpr ⟨innermost.rewound more, others⟩)
  | case3 f outer ending last ih => exact ih (List.forall_mem_cons.mp sound).2
  | case4 f outer going => exact sound

theorem settle_length_le (frames : List Frame) : (settle frames).length ≤ frames.length := by
  fun_induction settle frames with
  | case1 => exact Nat.le_refl _
  | case2 f outer ending more ih => exact ih
  | case3 f outer ending last ih => exact Nat.le_succ_of_le ih
  | case4 f outer going => exact Nat.le_refl _

theorem Context.sound_fresh : Context.fresh.Sound sources :=
  ⟨rfl, rfl, fun _ _ known => by cases known⟩

theorem Context.Sound.cons {c : Context} (sound : c.Sound sources) (src : Text) :
    c.Sound (src :: sources) :=
  ⟨sound.values_made, sound.procedures_made,
    fun name body known => (sound.bodies_slice name body known).cons src⟩

theorem Context.Sound.assigned {c : Context} (sound : c.Sound sources) (table : Table Float) :
    Context.Sound sources { c with values := some table } :=
  ⟨rfl, sound.procedures_made, sound.bodies_slice⟩

/-- Keeping a part of a source text as a body keeps the tables sound. -/
theorem Context.Sound.defined {c : Context} {table : Table Program} (sound : c.Sound sources)
    (made : c.procedures = some table) (name : Text) {body : Program}
    (slice : Slice sources body) :
    Context.Sound sources { c with procedures := some (table.set name body) } := by
  refine ⟨sound.values_made, rfl, ?_⟩
  intro name' body' known
  simp only [Context.procedure?, Option.bind_some, Table.get?_set] at known
  split at known
  · cases known
    exact slice
  · exact sound.bodies_slice name' body' (by simpa [Context.procedure?, made] using known)

end Parts

namespace Machine

variable {maxDepth : Int} {sources : List Text} {m m' : Machine}

/-- A machine stays sound with other frames, if these are sound, fit, and find the tables made. -/
theorem Sound.restacked {frames : List Frame} (sound : m.Sound maxDepth sources)
    (fits : frames.length ≤ m.limit) (each : ∀ f ∈ frames, f.Sound sources)
    (made : frames ≠ [] → m.context.isSome) (steps : Nat) :
    Sound maxDepth sources { m with stack := some frames, steps := steps } :=
  ⟨sound.maxDepth_eq, fits, each, sound.context_sound, made⟩

theorem Sound.closed (sound : m.Sound maxDepth sources) (steps : Nat) :
    Sound maxDepth sources { m with stack := some [], steps := steps } := by
  refine sound.restacked (Nat.zero_le _) ?_ ?_ steps
  · intro f member
    cases member
  · intro opened
    exact absurd rfl opened

theorem Sound.knowing {c : Context} (sound : m.Sound maxDepth sources) (tables : c.Sound sources) :
    Sound maxDepth sources { m with context := some c } := by
  refine ⟨sound.maxDepth_eq, sound.depth_le, sound.frames_sound, ?_, fun _ => rfl⟩
  intro c' same
  cases same
  exact tables

/-- Doing what a head asks for keeps a machine sound, if the body it opens or keeps is a part of a
source text. -/
theorem Sound.perform {c : Context} {head : Token} {effect : Effect} {i : Option Instruction}
    (sound : m.Sound maxDepth sources) (context : m.context = some c)
    (bodies : ∀ body, effect.body? = some body → Slice sources body)
    (performed : m.perform c head effect = .ok (i, m')) : m'.Sound maxDepth sources := by
  have tables := sound.context_sound c context
  cases effect with
  | nothing | draw =>
    cases performed
    exact sound
  | assign name x =>
    obtain ⟨table, made⟩ := Option.isSome_iff_exists.mp tables.values_made
    simp only [Machine.perform, made] at performed
    cases performed
    exact sound.knowing (tables.assigned (table.set name x))
  | define name body =>
    obtain ⟨table, made⟩ := Option.isSome_iff_exists.mp tables.procedures_made
    simp only [Machine.perform, made] at performed
    cases performed
    exact sound.knowing (tables.defined made name (bodies body rfl))
  | enter body again =>
    simp only [Machine.perform, push] at performed
    cases stack : m.stack with
    | none => simp [stack] at performed
    | some frames =>
      have same : m.frames = frames := by simp [Machine.frames, stack]
      by_cases full : m.limit ≤ frames.length
      · simp [stack, full] at performed
      · simp only [stack, if_neg full] at performed
        cases performed
        have opened : Frame.Sound sources ⟨body, 0, again + 1, head.line⟩ :=
          ⟨by simp only; omega, Nat.zero_le _, bodies body rfl⟩
        refine sound.restacked ?_ (List.forall_mem_cons.mpr ⟨opened, same ▸ sound.frames_sound⟩)
          (fun _ => context ▸ rfl) m.steps
        exact Nat.lt_of_not_le full

theorem Sound.taken {frames outer : List Frame} {f : Frame} (sound : m.Sound maxDepth sources)
    (stack : m.stack = some frames) (stops : settle frames = f :: outer) :
    Sound maxDepth sources { m with stack := some (f.next :: outer), steps := m.steps + 1 } := by
  have same : m.frames = frames := by simp [Machine.frames, stack]
  have settled := settle_sound (same ▸ sound.frames_sound)
  have fewer := settle_length_le frames
  rw [stops] at settled fewer
  obtain ⟨innermost, others⟩ := List.forall_mem_cons.mp settled
  have next : f.next.Sound sources :=
    ⟨innermost.passes_pos, place_lt_of_settle stops, innermost.tokens_slice⟩
  refine sound.restacked ?_ (List.forall_mem_cons.mpr ⟨next, others⟩) ?_ _
  · exact Nat.le_trans fewer (same ▸ sound.depth_le)
  · intro _
    refine sound.context_made ?_
    rw [same]
    intro empty
    rw [empty] at fewer
    simp at fewer

theorem Sound.moved {f : Frame} {outer : List Frame} (sound : m.Sound maxDepth sources)
    (stack : m.stack = some (f :: outer)) (after : Program) :
    Sound maxDepth sources { m with stack := some (f.before after :: outer) } := by
  have same : m.frames = f :: outer := by simp [Machine.frames, stack]
  obtain ⟨innermost, others⟩ := List.forall_mem_cons.mp (same ▸ sound.frames_sound)
  refine sound.restacked ?_ (List.forall_mem_cons.mpr ⟨innermost.before after, others⟩) ?_ _
  · have fits := sound.depth_le
    rw [same] at fits
    exact fits
  · intro _
    exact sound.context_made (same ▸ List.cons_ne_nil f outer)

/-- The body that a head opens or keeps is a part of a source text. -/
theorem body_slice {c : Context} {f : Frame} {head : Token} {effect : Effect}
    {after body : Program} (tables : c.Sound sources) (frame : f.Sound sources)
    (interpreted : interpret c.view head f.left = .ok (effect, after))
    (has : effect.body? = some body) : Slice sources body := by
  rcases (interpreted_of_interpret interpreted).body_source has with part | ⟨name, known⟩
  · exact frame.tokens_slice.part (part.trans (List.drop_suffix f.place f.tokens).isInfix)
  · exact tables.bodies_slice name body ((c.procedure?_eq name).trans known)

/-- Dispatching a head that was taken comes to no fault: it does to a sound machine what it does to
the machine that the storage stands for, and leaves a sound machine. -/
theorem Sound.dispatched {r : TurtleLogo.Machine} {f : Frame} {outer : List Frame}
    (sound : m.Sound maxDepth sources) (stack : m.stack = some (f :: outer))
    (tables : r.tables = m.view.tables) (steps : m.steps = r.steps + 1)
    (depth : m.maxDepth = r.maxDepth) (head : Token) :
    let outcome :=
      match interpret r.tables head f.left with
      | .error d => r.abort head (f.view :: outer.map Frame.view) d
      | .ok (effect, after) =>
        r.perform head ({ f.view with rest := after } :: outer.map Frame.view) effect
    ∃ m', m.report head (m.dispatch head) = .ok (outcome.1, m') ∧ m'.view = outcome.2 ∧
      m'.Sound maxDepth sources := by
  intro outcome
  have same : m.frames = f :: outer := by simp [Machine.frames, stack]
  obtain ⟨c, context⟩ : ∃ c, m.context = some c :=
    Option.isSome_iff_exists.mp (sound.context_made (same ▸ List.cons_ne_nil f outer))
  have known := sound.context_sound c context
  have innermost := (List.forall_mem_cons.mp (same ▸ sound.frames_sound)).1
  have knows : r.tables = c.view := by simp [tables, view, context]
  -- A diagnostic leaves the machine without frames, wherever it comes from.
  have aborted : ∀ d, { m with stack := some [] }.view =
      (r.abort head (f.view :: outer.map Frame.view) d).2 := by
    intro d
    simp [TurtleLogo.Machine.abort, view, frames, context, steps, depth, knows]
  rw [dispatch_eq context stack innermost.tokens_slice.named innermost.place_le]
  simp only [outcome, knows]
  cases interpreted : interpret c.view head f.left with
  | error d =>
    simp only [report_diagnosed stack]
    exact ⟨_, rfl, aborted d, sound.closed m.steps⟩
  | ok result =>
    obtain ⟨effect, after⟩ := result
    have bodies : ∀ body, effect.body? = some body → Slice sources body := by
      intro body has
      exact body_slice known innermost interpreted has
    have ends : after <:+ f.tokens :=
      (interpreted_of_interpret interpreted).after_ends.trans (List.drop_suffix f.place f.tokens)
    have moved := sound.moved stack after
    have performs := perform_eq (m := { m with stack := some (f.before after :: outer) }) context
      rfl known.values_made known.procedures_made knows steps depth head effect
    rw [List.map_cons, Frame.before_view ends] at performs
    rcases performs with ⟨i, m', performed, moves⟩ | ⟨d, blocked, aborts⟩
    · simp only [performed, moves]
      exact ⟨m', rfl, rfl, moved.perform context bodies performed⟩
    · simp only [blocked, aborts, report_diagnosed stack]
      exact ⟨_, rfl, aborted d, sound.closed m.steps⟩

/-- A step of a sound machine comes to no fault: it does what the step of the machine does that the
storage stands for, and leaves a sound machine. -/
theorem Sound.step_eq (sound : m.Sound maxDepth sources) :
    ∃ m', m.step = .ok (m.view.step.1, m') ∧ m'.view = m.view.step.2 ∧
      m'.Sound maxDepth sources := by
  cases stack : m.stack with
  | none =>
    have closed : m.frames = [] := by simp [frames, stack]
    have exhausted : TurtleLogo.Machine.settled m.view.frames = [] := by
      rw [view, closed]
      rfl
    rw [TurtleLogo.Machine.step_of_settled_nil exhausted]
    exact ⟨m, by simp [Machine.step, stack], by simp [view, closed], sound⟩
  | some frames =>
    have same : m.frames = frames := by simp [Machine.frames, stack]
    have search : TurtleLogo.Machine.settled m.view.frames = (settle frames).map Frame.view := by
      rw [settle_view, ← same]
      rfl
    cases stops : settle frames with
    | nil =>
      rw [stops] at search
      rw [TurtleLogo.Machine.step_of_settled_nil search]
      exact ⟨_, by simp [Machine.step, stack, stops], rfl, sound.closed m.steps⟩
    | cons f outer =>
      have going := place_lt_of_settle stops
      obtain ⟨head, left⟩ : ∃ head, f.left = head :: f.next.left :=
        ⟨f.tokens[f.place], List.drop_eq_getElem_cons going⟩
      have dispatched := (sound.taken stack stops).dispatched (r := m.view) rfl rfl rfl rfl head
      rw [stops, List.map_cons, Frame.view, left] at search
      rw [TurtleLogo.Machine.step_of_settled_cons search]
      simp only [Machine.step, stack, stops, Frame.token?_of_left left]
      exact dispatched

theorem Sound.step_sound {progress : TurtleLogo.Machine.Progress}
    (sound : m.Sound maxDepth sources) (step : m.step = .ok (progress, m')) :
    m.view.step = (progress, m'.view) ∧ m'.Sound maxDepth sources := by
  obtain ⟨m'', stepped, viewed, sound'⟩ := sound.step_eq
  rw [stepped] at step
  cases step
  exact ⟨by rw [viewed], sound'⟩

/-! ## Loading and running -/

theorem load_refused {src : Text} {d : Diagnostic}
    (refused : m.view.load (Token.scan src) = .error d) : m.load src = (some d, m) := by
  unfold TurtleLogo.Machine.load at refused
  unfold Machine.load
  cases fault : Program.fault? (Token.scan src) with
  | none => simp [fault] at refused
  | some d' =>
    rw [fault] at refused
    cases refused
    rfl

theorem load_diagnosed {src : Text} {d : Diagnostic} (load : m.load src = (some d, m')) :
    m.view.load (Token.scan src) = .error d ∧ m' = m := by
  unfold Machine.load at load
  unfold TurtleLogo.Machine.load
  cases fault : Program.fault? (Token.scan src) with
  | none => simp [fault] at load
  | some d' =>
    rw [fault] at load
    cases load
    exact ⟨rfl, rfl⟩

theorem load_of_balanced (m : Machine) {src : Text}
    (balanced : Program.fault? (Token.scan src) = none) :
    m.load src =
      (none,
        { m with
          context := some (m.context.getD .fresh)
          stack := some (if (Token.scan src).isEmpty then [] else [⟨Token.scan src, 0, 1, 0⟩])
          steps := 0 }) := by
  rw [load, balanced]

theorem Sound.load_accepted {src : Text} {loaded : TurtleLogo.Machine}
    (sound : m.Sound maxDepth sources) (accepted : m.view.load (Token.scan src) = .ok loaded) :
    ∃ m', m.load src = (none, m') ∧ m'.view = loaded ∧ m'.Sound maxDepth (src :: sources) := by
  have balanced := TurtleLogo.Machine.balanced_of_load accepted
  rw [TurtleLogo.Machine.load_of_balanced m.view balanced] at accepted
  cases accepted
  refine ⟨_, m.load_of_balanced balanced, ?_, ?_⟩
  · cases context : m.context <;> cases empty : (Token.scan src).isEmpty <;>
      simp [view, frames, Frame.view, Frame.left, TurtleLogo.Frame.start, context] <;> rfl
  · have whole : Slice (src :: sources) (Token.scan src) :=
      ⟨src, List.mem_cons_self, List.infix_refl _⟩
    have one : ∀ f ∈ (if (Token.scan src).isEmpty then []
        else [(⟨Token.scan src, 0, 1, 0⟩ : Frame)]), f.Sound (src :: sources) := by
      intro f member
      split at member
      · cases member
      · cases List.mem_singleton.mp member
        exact ⟨Int.le_refl 1, Nat.zero_le _, whole⟩
    refine ⟨sound.maxDepth_eq, ?_, one, ?_, fun _ => rfl⟩
    · refine Nat.le_trans ?_ (TurtleLogo.Machine.limit_pos m.view)
      simp only [frames, Option.getD_some]
      split <;> simp
    · intro c same
      cases same
      cases context : m.context with
      | none => exact Context.sound_fresh
      | some c => exact (sound.context_sound c context).cons src

theorem Sound.load_sound {src : Text} (sound : m.Sound maxDepth sources)
    (load : m.load src = (none, m')) :
    m.view.load (Token.scan src) = .ok m'.view ∧ m'.Sound maxDepth (src :: sources) := by
  cases loading : m.view.load (Token.scan src) with
  | error d =>
    rw [load_refused loading] at load
    cases load
  | ok loaded =>
    obtain ⟨m'', accepted, viewed, sound'⟩ := sound.load_accepted loading
    rw [accepted] at load
    cases load
    exact ⟨by rw [viewed], sound'⟩

theorem Sound.within (sound : m.Sound maxDepth sources) : m.view.Within m.limit :=
  ⟨rfl, by simpa [view] using sound.depth_le⟩

/-- A run of a sound machine comes to no fault, whatever its waits report: it leaves the sound machine
that the run leaves which the storage stands for. -/
theorem Sound.finishes_eq {waits : Waits} {made : Nat} {result : Except Fault Machine}
    (finishes : Finishes waits m made result) (sound : m.Sound maxDepth sources) {n : Nat}
    (within : m.view.Within n) (drawn : List Instruction) :
    ∃ m', result = .ok m' ∧ m'.Sound maxDepth sources ∧
      (TurtleLogo.Machine.finish waits m.view within drawn made).machine = m'.view := by
  induction finishes generalizing drawn with
  | faulted step =>
    obtain ⟨m', stepped, _⟩ := sound.step_eq
    rw [stepped] at step
    cases step
  | ended step =>
    obtain ⟨stepped, sound'⟩ := sound.step_sound step
    refine ⟨_, rfl, sound', ?_⟩
    rw [TurtleLogo.Machine.finish_of_ending waits within drawn _ stepped]
  | interrupted step fails =>
    obtain ⟨stepped, sound'⟩ := sound.step_sound step
    refine ⟨_, rfl, sound'.closed _, ?_⟩
    rw [TurtleLogo.Machine.finish_of_interrupted waits within drawn _ stepped fails]
    rfl
  | moved step well later ih =>
    obtain ⟨stepped, sound'⟩ := sound.step_sound step
    rw [TurtleLogo.Machine.finish_of_moved waits within drawn _ stepped well]
    exact ih sound' _ _

theorem Sound.exists_finishes (sound : m.Sound maxDepth sources) {n : Nat}
    (within : m.view.Within n) (waits : Waits) (made : Nat) :
    ∃ result, Finishes waits m made result := by
  generalize measure : TurtleLogo.Machine.work n m.view.frames = weights
  -- The machine that the storage stands for descends with every step that moves.
  induction weights using (TurtleLogo.Machine.levelsOrder n).wf.induction generalizing m made with
  | h weights ih =>
    obtain ⟨m', stepped, viewed, sound'⟩ := sound.step_eq
    cases step : m.view.step with
    | mk progress final =>
      rw [step] at stepped viewed
      cases progress with
      | done =>
        have ending : m.step = .ok (.ending none, m') := stepped
        exact ⟨_, .ended ending⟩
      | failed d =>
        have ending : m.step = .ok (.ending (some d), m') := stepped
        exact ⟨_, .ended ending⟩
      | moved i =>
        cases wait : waits (made + 1) with
        | some reason => exact ⟨_, .interrupted stepped wait⟩
        | none =>
          have less := TurtleLogo.Machine.step_descends within.depth_le step
          have within' := TurtleLogo.Machine.step_within within step
          rw [measure] at less
          obtain ⟨result, later⟩ := ih _ less sound' (viewed ▸ within') (made + 1) (by rw [viewed])
          exact ⟨result, .moved stepped wait later⟩

/-! ## All reachable machines -/

/-- No operation on the machine comes to a fault, and each does what it does to the machine that the
storage stands for. A run has a result whatever its waits report. -/
structure Faultless (m : Machine) : Prop where
  load_refused : ∀ src d, m.view.load (Token.scan src) = .error d → m.load src = (some d, m)
  load_accepted : ∀ src loaded, m.view.load (Token.scan src) = .ok loaded →
    ∃ m', m.load src = (none, m') ∧ m'.view = loaded
  step_eq : ∃ m', m.step = .ok (m.view.step.1, m') ∧ m'.view = m.view.step.2
  run_returns : ∀ src waits, ∃ result, Runs waits m src result
  run_eq : ∀ src waits result, Runs waits m src result →
    ∃ m', result = .ok m' ∧ m'.view = (m.view.run src waits).machine
  reset_eq : m.reset.view = m.view.reset

theorem Sound.run_returns (sound : m.Sound maxDepth sources) (src : Text) (waits : Waits) :
    ∃ result, Runs waits m src result := by
  cases loading : m.view.load (Token.scan src) with
  | error d => exact ⟨_, .refused (Machine.load_refused loading)⟩
  | ok loaded =>
    obtain ⟨m', load, _, sound'⟩ := sound.load_accepted loading
    obtain ⟨result, finishes⟩ := sound'.exists_finishes sound'.within waits 0
    exact ⟨result, .loaded load finishes⟩

theorem Sound.run_loaded {src : Text} {waits : Waits} {result : Except Fault Machine}
    (sound : m.Sound maxDepth sources) (load : m.load src = (none, m'))
    (finishes : Finishes waits m' 0 result) :
    ∃ final, result = .ok final ∧ final.Sound maxDepth (src :: sources) ∧
      final.view = (m.view.run src waits).machine := by
  obtain ⟨loaded, sound'⟩ := sound.load_sound load
  obtain ⟨final, same, sound'', machine⟩ :=
    sound'.finishes_eq finishes (TurtleLogo.Machine.load_within loaded) []
  refine ⟨final, same, sound'', ?_⟩
  rw [TurtleLogo.Machine.run, TurtleLogo.Machine.runProgram_loaded loaded, machine]

theorem Sound.run_eq {src : Text} {waits : Waits} {result : Except Fault Machine}
    (sound : m.Sound maxDepth sources) (runs : Runs waits m src result) :
    ∃ final, result = .ok final ∧ final.view = (m.view.run src waits).machine := by
  cases runs with
  | loaded load finishes =>
    obtain ⟨final, same, _, machine⟩ := sound.run_loaded load finishes
    exact ⟨final, same, machine⟩
  | refused load =>
    obtain ⟨loading, rfl⟩ := load_diagnosed load
    refine ⟨_, rfl, ?_⟩
    rw [TurtleLogo.Machine.run, TurtleLogo.Machine.runProgram_refused loading]

theorem Sound.faultless (sound : m.Sound maxDepth sources) : m.Faultless where
  load_refused _ _ refused := Machine.load_refused refused
  load_accepted _ _ accepted := by
    obtain ⟨m', load, viewed, _⟩ := sound.load_accepted accepted
    exact ⟨m', load, viewed⟩
  step_eq := by
    obtain ⟨m', stepped, viewed, _⟩ := sound.step_eq
    exact ⟨m', stepped, viewed⟩
  run_returns := sound.run_returns
  run_eq _ _ _ := sound.run_eq
  reset_eq := rfl

theorem Sound.reset (sound : m.Sound maxDepth sources) : m.reset.Sound maxDepth sources where
  maxDepth_eq := sound.maxDepth_eq
  depth_le := Nat.zero_le _
  frames_sound := by
    intro f member
    cases member
  context_sound := by
    intro c same
    cases same
    exact Context.sound_fresh
  context_made := fun _ => rfl

theorem sound_zero (maxDepth : Int) : (zero maxDepth).Sound maxDepth [] where
  maxDepth_eq := rfl
  depth_le := Nat.zero_le _
  frames_sound := by
    intro f member
    cases member
  context_sound := by
    intro c same
    cases same
  context_made := by
    intro opened
    exact absurd rfl opened

theorem Reached.sound (reached : Reached maxDepth sources m) : m.Sound maxDepth sources := by
  induction reached with
  | fresh => exact (sound_zero maxDepth).reset
  | zero => exact sound_zero maxDepth
  | refused before load ih =>
    obtain ⟨_, rfl⟩ := load_diagnosed load
    exact ih
  | loaded before load ih => exact (ih.load_sound load).2
  | stepped before step ih => exact (ih.step_sound step).2
  | ran before load finishes ih =>
    obtain ⟨final, same, sound, _⟩ := ih.run_loaded load finishes
    cases same
    exact sound
  | reset before ih => exact ih.reset

end Machine

end Storage

namespace Machine

/-- `Reached maxDepth sources m`: loading and running source texts, stepping and resetting, in any
order, can lead to `m`. The texts that were accepted on the way are `sources`, the latest first. -/
inductive Reached (maxDepth : Int) : List Text → Machine → Prop
  | fresh : Reached maxDepth [] (.fresh maxDepth)
  | loaded {sources : List Text} {m m' : Machine} {src : Text}
      (before : Reached maxDepth sources m) (load : m.load (Token.scan src) = .ok m') :
      Reached maxDepth (src :: sources) m'
  | stepped {sources : List Text} {m m' : Machine} {progress : Progress}
      (before : Reached maxDepth sources m) (step : m.step = (progress, m')) :
      Reached maxDepth sources m'
  | ran {sources : List Text} {m loaded : Machine} {src : Text}
      (before : Reached maxDepth sources m) (load : m.load (Token.scan src) = .ok loaded)
      (waits : Waits) : Reached maxDepth (src :: sources) (m.run src waits).machine
  | reset {sources : List Text} {m : Machine} (before : Reached maxDepth sources m) :
      Reached maxDepth sources m.reset

/-- Whatever is done with a machine can be done with it in storage. -/
theorem Reached.stored {maxDepth : Int} {sources : List Text} {m : Machine}
    (reached : Reached maxDepth sources m) :
    ∃ s, Storage.Machine.Reached maxDepth sources s ∧ s.view = m := by
  induction reached with
  | fresh => exact ⟨.zero maxDepth, .zero, rfl⟩
  | loaded before load ih =>
    obtain ⟨s, reached, rfl⟩ := ih
    obtain ⟨s', stored, viewed, _⟩ := reached.sound.load_accepted load
    exact ⟨s', .loaded reached stored, viewed⟩
  | stepped before step ih =>
    obtain ⟨s, reached, rfl⟩ := ih
    obtain ⟨s', stored, viewed, _⟩ := reached.sound.step_eq
    exact ⟨s', .stepped reached stored, by rw [viewed, step]⟩
  | ran before load waits ih =>
    obtain ⟨s, reached, rfl⟩ := ih
    obtain ⟨s', stored, _, sound'⟩ := reached.sound.load_accepted load
    obtain ⟨result, finishes⟩ := sound'.exists_finishes sound'.within waits 0
    obtain ⟨final, rfl, _, viewed⟩ := reached.sound.run_loaded stored finishes
    exact ⟨final, .ran reached stored finishes, viewed⟩
  | reset before ih =>
    obtain ⟨s, reached, rfl⟩ := ih
    exact ⟨s.reset, .reset reached, rfl⟩

/-- In every machine that can be reached, from a new one or from one for which nothing was made, the
frames keep to the limit and to their tokens, all tokens in use are parts of loaded source texts, and
no operation comes to a fault. The machines that are run are what such storage stands for. -/
theorem reached_machines_keep_integrity (maxDepth : Int) (sources : List Text) :
    (∀ s, Storage.Machine.Reached maxDepth sources s → s.Sound maxDepth sources ∧ s.Faultless) ∧
    ∀ m, Reached maxDepth sources m →
      ∃ s, Storage.Machine.Reached maxDepth sources s ∧ s.view = m := by
  refine ⟨?_, ?_⟩
  · intro s reached
    exact ⟨reached.sound, reached.sound.faultless⟩
  · intro m reached
    exact reached.stored

/-- A machine for which nothing was made loads a procedure that calls itself, steps into it up to its
limit of two frames, and refuses another text there. -/
theorem reached_machines_keep_integrity_recursion :
    ∃ s d, Storage.Machine.Reached 2 [utf8 "DEF A A END A"] s ∧ s.frames.length = 2 ∧
      s.load (utf8 "]") = (some d, s) ∧ s.Sound 2 [utf8 "DEF A A END A"] ∧ s.Faultless := by
  have integrity := reached_machines_keep_integrity 2 [utf8 "DEF A A END A"]
  have accepted : ((Storage.Machine.zero 2).load (utf8 "DEF A A END A")).1 = none := by cbv
  have loaded : Storage.Machine.Reached 2 [utf8 "DEF A A END A"]
      ((Storage.Machine.zero 2).load (utf8 "DEF A A END A")).2 :=
    .loaded .zero (Prod.ext accepted rfl)
  obtain ⟨s₁, defines, viewed₁⟩ := (integrity.1 _ loaded).2.step_eq
  have defined := Storage.Machine.Reached.stepped loaded defines
  obtain ⟨s, calls, viewed⟩ := (integrity.1 _ defined).2.step_eq
  have called := Storage.Machine.Reached.stepped defined calls
  have two : s.view.frames.length = 2 := by
    rw [viewed, viewed₁]
    cbv
  have refused : s.view.load (Token.scan (utf8 "]")) = .error ⟨.extraClosing, 1⟩ := by
    have fault : Program.fault? (Token.scan (utf8 "]")) = some ⟨.extraClosing, 1⟩ := by cbv
    rw [load, fault]
  have sound := integrity.1 s called
  exact ⟨s, _, called, by simpa [Storage.Machine.view] using two,
    sound.2.load_refused _ _ refused, sound⟩

end Machine

end TurtleLogo
