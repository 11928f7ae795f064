import TurtleLogo.Proofs.Evaluation
import TurtleLogo.Proofs.Lockstep

/-!
# Self-contained programs

A program that makes no variables, has numbers as its arguments and calls only procedures that it has
made itself does not depend on what earlier programs have left in the tables, with one exception. An
argument is looked up among the variables before it is read as a number, so a variable that goes by
the text of a number takes its place.
-/

set_option autoImplicit false

namespace TurtleLogo

/-! ## Numbers as arguments -/

/-- No variable takes the place of a number, unless it has the value that is written there. -/
def Tables.Spares (tables : Tables) (number : Text) : Prop :=
  ∀ x, tables.values.get? number = some x →
    (Value.number x).float? = (Value.word number).float?

theorem Tables.Spares.of_get?_none {tables : Tables} {number : Text}
    (unused : tables.values.get? number = none) : tables.Spares number := by
  intro x used
  rw [unused] at used
  cases used

theorem Value.int?_congr {v w : Value} (same : v.float? = w.float?) : v.int? = w.int? := by
  rw [Value.int?, Value.int?, same]

section Numbers

variable {tables tables' : Tables} {t : Token} (number : t.kind = .number)
include number

theorem evaluate_of_spares (spares : tables.Spares t.text) :
    ∃ v, tables.evaluate t = .ok v ∧ v.float? = (Value.word t.text).float? := by
  have fixed : t.kind ≠ .variable := by
    rw [number]
    decide
  rw [Tables.evaluate, if_neg fixed]
  cases used : tables.values.get? t.text with
  | none => exact ⟨.word t.text, rfl, rfl⟩
  | some x => exact ⟨.number x, rfl, spares x used⟩

theorem numberArgument_of_spares (spares : tables.Spares t.text) (spares' : tables'.Spares t.text)
    (command : Text) : numberArgument tables command t = numberArgument tables' command t := by
  obtain ⟨v, value, same⟩ := evaluate_of_spares number spares
  obtain ⟨v', value', same'⟩ := evaluate_of_spares number spares'
  simp only [numberArgument, value, value', same, same']

end Numbers

namespace Program

def numbers (p : Program) : List Text :=
  (p.filter fun t => t.kind = .number).map Token.text

/-- `SelfContained numbers known p`: a program makes no variables, has only some of the `numbers` as
arguments, and calls only procedures that are `known` before or that it has made itself by then. -/
inductive SelfContained (numbers : List Text) : List Text → Program → Prop
  | nil {known : List Text} : SelfContained numbers known []
  | definition {known : List Text} {head name : Token} {tokens body after : Program}
      (command : head.command? = some .define) (found : definition? tokens = some (body, after))
      (inside : SelfContained numbers known body)
      (behind : SelfContained numbers (Text.upper name.text :: known) after) :
      SelfContained numbers known (head :: name :: tokens)
  | loop {known : List Text} {head t : Token} {tokens body after : Program}
      (command : head.command? = some .loop) (number : t.kind = .number)
      (listed : t.text ∈ numbers) (found : block? tokens = some (body, after))
      (inside : SelfContained numbers known body) (behind : SelfContained numbers known after) :
      SelfContained numbers known (head :: t :: tokens)
  | motion {known : List Text} {head t : Token} {after : Program} {command : Command}
      {instruction : Float → Instruction} (named : head.command? = some command)
      (moves : command.motion? = some instruction) (number : t.kind = .number)
      (listed : t.text ∈ numbers) (behind : SelfContained numbers known after) :
      SelfContained numbers known (head :: t :: after)
  | color {known : List Text} {head t : Token} {after : Program}
      (command : head.command? = some .setColor) (behind : SelfContained numbers known after) :
      SelfContained numbers known (head :: t :: after)
  | bare {known : List Text} {head : Token} {after : Program} {command : Command} {effect : Effect}
      (named : head.command? = some command) (acts : command.bare? = some effect)
      (behind : SelfContained numbers known after) : SelfContained numbers known (head :: after)
  | call {known : List Text} {head : Token} {after : Program} (named : head.command? = none)
      (made : Text.upper head.text ∈ known) (behind : SelfContained numbers known after) :
      SelfContained numbers known (head :: after)

theorem SelfContained.mono {numbers known later : List Text} {p : Program}
    (contained : SelfContained numbers known p) (more : known ⊆ later) :
    SelfContained numbers later p := by
  induction contained generalizing later with
  | nil => exact .nil
  | definition command found _ _ inside behind =>
    exact .definition command found (inside more) (behind (List.cons_subset_cons _ more))
  | loop command number listed found _ _ inside behind =>
    exact .loop command number listed found (inside more) (behind more)
  | motion named moves number listed _ behind =>
    exact .motion named moves number listed (behind more)
  | color command _ behind => exact .color command (behind more)
  | bare named acts _ behind => exact .bare named acts (behind more)
  | call named made _ behind => exact .call named (more made) (behind more)

def contained (numbers : List Text) : Nat → List Text → Program → Bool
  | _, _, [] => true
  | 0, _, _ :: _ => false
  | fuel + 1, known, head :: rest =>
    match head.command?, rest with
    | none, after => known.contains (Text.upper head.text) && contained numbers fuel known after
    | some .define, name :: tokens =>
      match definition? tokens with
      | some (body, after) =>
        contained numbers fuel known body &&
          contained numbers fuel (Text.upper name.text :: known) after
      | none => false
    | some .loop, t :: tokens =>
      match block? tokens with
      | some (body, after) =>
        t.kind == .number && numbers.contains t.text && contained numbers fuel known body &&
          contained numbers fuel known after
      | none => false
    | some .setColor, _ :: after => contained numbers fuel known after
    | some command, rest =>
      match command.bare?, command.motion?, rest with
      | some _, _, after => contained numbers fuel known after
      | none, some _, t :: after =>
        t.kind == .number && numbers.contains t.text && contained numbers fuel known after
      | _, _, _ => false

theorem selfContained_of_contained {numbers known : List Text} {fuel : Nat} {p : Program}
    (checked : contained numbers fuel known p = true) : SelfContained numbers known p := by
  fun_induction contained numbers fuel known p with
  | case1 => exact .nil
  | case2 => cases checked
  | case3 fuel known head after named behind =>
    simp only [Bool.and_eq_true, List.contains_iff_mem] at checked
    exact .call named checked.1 (behind checked.2)
  | case4 fuel known head name tokens command body after found inside behind =>
    rw [Bool.and_eq_true] at checked
    exact .definition command found (inside checked.1) (behind checked.2)
  | case5 => cases checked
  | case6 fuel known head t tokens command body after found inside behind =>
    simp only [Bool.and_eq_true, beq_iff_eq, List.contains_iff_mem] at checked
    obtain ⟨⟨⟨number, listed⟩, insideChecked⟩, behindChecked⟩ := checked
    exact .loop command number listed found (inside insideChecked) (behind behindChecked)
  | case7 => cases checked
  | case8 fuel known head t after command behind => exact .color command (behind checked)
  | case9 fuel known head command named effect after acts _ _ _ behind =>
    exact .bare named acts (behind checked)
  | case10 fuel known head command named instruction t after moves _ _ _ _ behind =>
    simp only [Bool.and_eq_true, beq_iff_eq, List.contains_iff_mem] at checked
    obtain ⟨⟨number, listed⟩, behindChecked⟩ := checked
    exact .motion named moves number listed (behind behindChecked)
  | case11 => cases checked

end Program

/-! ## One head -/

/-- Tables that a self-contained program cannot tell apart: no variable takes the place of one of the
numbers, and the known procedures have the same bodies, which are self-contained themselves. -/
structure Tables.Agree (numbers known : List Text) (tables tables' : Tables) : Prop where
  spares : ∀ number ∈ numbers, tables.Spares number ∧ tables'.Spares number
  procedures : ∀ name ∈ known, ∃ body,
    tables.procedures.get? name = some body ∧ tables'.procedures.get? name = some body ∧
      Program.SelfContained numbers known body

theorem Tables.Agree.define {numbers known : List Text} {tables tables' : Tables}
    (agree : tables.Agree numbers known tables') (name : Text) {body : Program}
    (contained : Program.SelfContained numbers known body) :
    Tables.Agree numbers (name :: known)
      { tables with procedures := tables.procedures.set name body }
      { tables' with procedures := tables'.procedures.set name body } := by
  refine ⟨agree.spares, ?_⟩
  intro other member
  have more := List.subset_cons_self name known
  simp only [Table.get?_set]
  by_cases same : other = name
  · rw [if_pos same, if_pos same]
    exact ⟨body, rfl, rfl, contained.mono more⟩
  · rw [if_neg same, if_neg same]
    obtain ⟨old, here, there, kept⟩ := agree.procedures other (List.mem_of_ne_of_mem same member)
    exact ⟨old, here, there, kept.mono more⟩

theorem interpret_motion {head t : Token} {command : Command} {instruction : Float → Instruction}
    (named : head.command? = some command) (moves : command.motion? = some instruction)
    (tables : Tables) (after : Program) :
    interpret tables head (t :: after) =
      (numberArgument tables (Text.upper head.text) t).map
        fun x => (.draw (instruction x), after) := by
  rw [Token.command?] at named
  simp only [interpret, named]
  cases number : numberArgument tables (Text.upper head.text) t <;>
    cases command <;> cases moves <;> simp [interpretCommand, withNumber, argument, number, Except.map]

theorem interpret_loop_uncounted {tables : Tables} {head t : Token} {tokens : Program} {v : Value}
    (command : head.command? = some .loop) (value : tables.evaluate t = .ok v)
    (uncounted : v.int? = none) :
    interpret tables head (t :: tokens) =
      .error ⟨.notANumber (utf8 "REPEAT") t.text, t.line⟩ := by
  rw [Token.command?] at command
  simp only [interpret, command, interpretCommand, interpretLoop, argument, value, uncounted]

def Tables.AgreeAfter (numbers known : List Text) (tables tables' : Tables) (effect : Effect)
    (after : Program) : Prop :=
  ∃ later, known ⊆ later ∧ Program.SelfContained numbers later after ∧
    (effect.update tables).Agree numbers later (effect.update tables') ∧
    ∀ body, effect.body? = some body → Program.SelfContained numbers later body

section Heads

variable {numbers known : List Text} {tables tables' : Tables}
  (agree : tables.Agree numbers known tables')

include agree

theorem Tables.Agree.unchanged {effect : Effect} {after : Program}
    (plain : ∀ tables, effect.update tables = tables)
    (behind : Program.SelfContained numbers known after)
    (inside : ∀ body, effect.body? = some body → Program.SelfContained numbers known body) :
    tables.AgreeAfter numbers known tables' effect after := by
  refine ⟨known, List.Subset.refl known, behind, ?_, inside⟩
  rw [plain, plain]
  exact agree

/-- What a head of a self-contained program does, it does with either of two tables that the program
cannot tell apart. -/
theorem interpret_agree {head : Token} {rest : Program}
    (contained : Program.SelfContained numbers known (head :: rest)) :
    ∃ result, interpret tables head rest = result ∧ interpret tables' head rest = result ∧
      ∀ effect after, result = .ok (effect, after) →
        tables.AgreeAfter numbers known tables' effect after := by
  cases contained with
  | @definition _ _ name tokens body after command found inside behind =>
    refine ⟨_, interpret_of_interpreted (.definition command found),
      interpret_of_interpreted (.definition command found), ?_⟩
    rintro _ _ ⟨⟩
    have more := List.subset_cons_self (Text.upper name.text) known
    refine ⟨_, more, behind, agree.define _ inside, ?_⟩
    rintro _ ⟨⟩
    exact inside.mono more
  | @loop _ _ t tokens body after command number listed found inside behind =>
    obtain ⟨spares, spares'⟩ := agree.spares _ listed
    obtain ⟨v, value, same⟩ := evaluate_of_spares number spares
    obtain ⟨v', value', same'⟩ := evaluate_of_spares number spares'
    have counts : v'.int? = v.int? := Value.int?_congr (same'.trans same.symm)
    cases counted : v.int? with
    | none =>
      have counted' := counts.trans counted
      refine ⟨_, interpret_loop_uncounted command value counted,
        interpret_loop_uncounted command value' counted', ?_⟩
      rintro _ _ ⟨⟩
    | some count =>
      have counted' := counts.trans counted
      by_cases idle : count ≤ 0 ∨ body = []
      · refine ⟨_, interpret_of_interpreted (.noLoop command value counted found idle),
          interpret_of_interpreted (.noLoop command value' counted' found idle), ?_⟩
        rintro _ _ ⟨⟩
        exact agree.unchanged (fun _ => rfl) behind nofun
      · refine ⟨_, interpret_of_interpreted (.loop command value counted found idle),
          interpret_of_interpreted (.loop command value' counted' found idle), ?_⟩
        rintro _ _ ⟨⟩
        refine agree.unchanged (fun _ => rfl) behind ?_
        rintro _ ⟨⟩
        exact inside
  | @motion _ _ t after command instruction named moves number listed behind =>
    obtain ⟨spares, spares'⟩ := agree.spares _ listed
    have sameNumber := numberArgument_of_spares number spares spares' (Text.upper head.text)
    refine ⟨_, interpret_motion named moves tables after, ?_, ?_⟩
    · rw [interpret_motion named moves, sameNumber]
    · intro effect left result
      cases read : numberArgument tables (Text.upper head.text) t with
      | error d =>
        rw [read] at result
        cases result
      | ok x =>
        rw [read] at result
        cases result
        exact agree.unchanged (fun _ => rfl) behind nofun
  | color command behind =>
    refine ⟨_, interpret_of_interpreted (.color command), interpret_of_interpreted (.color command),
      ?_⟩
    rintro _ _ ⟨⟩
    exact agree.unchanged (fun _ => rfl) behind nofun
  | @bare _ _ _ command effect named acts behind =>
    refine ⟨_, interpret_of_interpreted (.bare named acts),
      interpret_of_interpreted (.bare named acts), ?_⟩
    rintro _ _ ⟨⟩
    cases command <;> cases acts <;> exact agree.unchanged (fun _ => rfl) behind nofun
  | call named made behind =>
    -- Whatever an earlier program called by this name, the program has put its own body there.
    obtain ⟨body, here, there, kept⟩ := agree.procedures _ made
    refine ⟨_, interpret_of_interpreted (.call named here),
      interpret_of_interpreted (.call named there), ?_⟩
    rintro _ _ ⟨⟩
    refine agree.unchanged (fun _ => rfl) behind ?_
    rintro _ ⟨⟩
    exact kept

end Heads

/-! ## Two machines with different tables -/

namespace Machine

/-- What the search for the next head leads to is made of the frames it went through. -/
theorem next?_holds {holds : Program → Prop} {frames : List Frame} {focus : Focus}
    (stacked : ∀ f ∈ frames, holds f.body ∧ holds f.rest) (found : next? frames = some focus) :
    holds (focus.head :: focus.rest) ∧ holds focus.frame.body ∧
      ∀ f ∈ focus.outer, holds f.body ∧ holds f.rest := by
  induction frames with
  | nil => cases found
  | cons f outer ih =>
    obtain ⟨⟨body, rest⟩, others⟩ := List.forall_mem_cons.mp stacked
    unfold next? at found
    split at found
    · rename_i restEq
      cases found
      rw [restEq] at rest
      exact ⟨rest, body, others⟩
    · rename_i bodyEq
      cases found
      rw [bodyEq] at body
      exact ⟨body, bodyEq ▸ body, others⟩
    · exact ih others found

section Perform

variable (m : Machine) (head : Token) (frames : List Frame) (effect : Effect)

/-- An effect does not depend on the tables that it changes. -/
theorem perform_tables (tables : Tables) :
    { m with tables := tables }.perform head frames effect =
      ((m.perform head frames effect).1,
        { (m.perform head frames effect).2 with tables := effect.update tables }) := by
  cases effect with
  | enter body again =>
    by_cases full : m.limit ≤ frames.length
    · have full' : { m with tables := tables }.limit ≤ frames.length := full
      simp only [perform, if_pos full, if_pos full']
      rfl
    · have full' : ¬{ m with tables := tables }.limit ≤ frames.length := full
      simp only [perform, if_neg full, if_neg full']
      rfl
  | nothing | draw | assign | define => rfl

theorem tables_perform : (m.perform head frames effect).2.tables = effect.update m.tables := by
  cases effect with
  | enter body again =>
    rw [perform]
    split <;> rfl
  | nothing | draw | assign | define => rfl

variable {m head frames effect}

theorem mem_frames_perform {f : Frame} (stacked : f ∈ (m.perform head frames effect).2.frames) :
    f ∈ frames ∨ ∃ body again, effect.body? = some body ∧ f = Frame.start body again head.line := by
  cases effect with
  | enter body again =>
    rw [perform] at stacked
    split at stacked
    · cases stacked
    · rcases List.mem_cons.mp stacked with rfl | member
      · exact .inr ⟨body, again, rfl, rfl⟩
      · exact .inl member
  | nothing | draw | assign | define => exact .inl stacked

end Perform

def AlikeButTables (numbers : List Text) (m m' : Machine) : Prop :=
  ∃ known tables, m' = { m with tables := tables } ∧ m.tables.Agree numbers known tables ∧
    ∀ f ∈ m.frames, Program.SelfContained numbers known f.body ∧
      Program.SelfContained numbers known f.rest

theorem AlikeButTables.step {numbers : List Text} {m m' : Machine}
    (alike : AlikeButTables numbers m m') :
    Progress.Alike Eq m.step.1 m'.step.1 ∧ AlikeButTables numbers m.step.2 m'.step.2 := by
  obtain ⟨known, tables, rfl, agree, contained⟩ := alike
  cases found : next? m.frames with
  | none =>
    have found' : next? { m with tables := tables }.frames = none := found
    rw [step_of_exhausted found, step_of_exhausted found']
    refine ⟨.done, known, tables, rfl, agree, ?_⟩
    rintro f ⟨⟩
  | some focus =>
    obtain ⟨head, rest, f, outer⟩ := focus
    have found' : next? { m with tables := tables }.frames = some ⟨head, rest, f, outer⟩ := found
    obtain ⟨here, body, others⟩ := next?_holds contained found
    obtain ⟨result, interpreted, interpreted', leads⟩ := interpret_agree agree here
    cases result with
    | error d =>
      rw [step_of_refused found interpreted, step_of_refused found' interpreted']
      refine ⟨.failed rfl, known, tables, rfl, agree, ?_⟩
      rintro f ⟨⟩
    | ok taken =>
      obtain ⟨effect, after⟩ := taken
      -- A definition makes a name known; what was self-contained before stays so.
      obtain ⟨later, more, behind, agree', opened⟩ := leads effect after rfl
      rw [step_of_interpreted found interpreted, step_of_interpreted found' interpreted',
        perform_tables m head _ effect tables]
      refine ⟨Progress.alike_refl _, later, effect.update tables, rfl, ?_, ?_⟩
      · rw [tables_perform]
        exact agree'
      · intro g stacked
        rcases mem_frames_perform stacked with member | ⟨entered, again, isBody, rfl⟩
        · rcases List.mem_cons.mp member with rfl | member
          · exact ⟨Program.SelfContained.mono body more, behind⟩
          · have old := others g member
            exact ⟨old.1.mono more, old.2.mono more⟩
        · exact ⟨opened entered isBody, opened entered isBody⟩

theorem tables_lockstep (numbers : List Text) : Lockstep (AlikeButTables numbers) Eq where
  step alike := alike.step
  closed := by
    rintro m _ ⟨known, tables, rfl, agree, _⟩
    refine ⟨known, tables, rfl, agree, ?_⟩
    rintro f ⟨⟩
  steps := by
    rintro m _ ⟨known, tables, rfl, _⟩
    rfl

/-- A self-contained program runs alike on any two machines of the same depth, if no variable of
either takes the place of one of its numbers. -/
theorem run_of_selfContained {m m' : Machine} {src : Text} {numbers : List Text}
    (balanced : Program.fault? (Token.scan src) = none)
    (contained : Program.SelfContained numbers [] (Token.scan src))
    (spares : ∀ number ∈ numbers, m.tables.Spares number ∧ m'.tables.Spares number)
    (depth : m.maxDepth = m'.maxDepth) (waits : Waits) :
    Run.Alike (AlikeButTables numbers) Eq (m.run src waits) (m'.run src waits) := by
  have load := load_of_balanced m balanced
  have load' := load_of_balanced m' balanced
  rw [← depth] at load'
  refine (tables_lockstep numbers).runProgram load load' ?_ waits
  refine ⟨[], m'.tables, rfl, ⟨spares, nofun⟩, ?_⟩
  intro f stacked
  split at stacked
  · cases stacked
  · cases List.mem_singleton.mp stacked
    exact ⟨contained, contained⟩

end Machine

end TurtleLogo
