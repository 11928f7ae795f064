import TurtleLogo.Proofs.Storage
import TurtleLogo.Proofs.Termination

/-!
# Heads in storage

In a frame whose place is not beyond its end, and whose variables all have names, a head does in
storage what it does in front of the tokens that are left: no access fails, and the place moves to
the tokens that the head leaves. The search for the next head is the same in both as well.
-/

set_option autoImplicit false

namespace TurtleLogo

namespace Machine

/-! ## Steps from where the search stops -/

theorem step_of_settled_nil {m : Machine} (exhausted : settled m.frames = []) :
    m.step = (.done, { m with frames := [] }) := by
  unfold settled at exhausted
  unfold step
  cases found : next? m.frames with
  | none => rfl
  | some focus =>
    rw [found] at exhausted
    cases exhausted

theorem step_of_settled_cons {m : Machine} {body rest : Program} {head : Token} {again : Nat}
    {opened : Int} {outer : List Frame}
    (stops : settled m.frames = ⟨body, head :: rest, again, opened⟩ :: outer) :
    m.step =
      match interpret m.tables head rest with
      | .error d => m.abort head (⟨body, head :: rest, again, opened⟩ :: outer) d
      | .ok (effect, after) => m.perform head (⟨body, after, again, opened⟩ :: outer) effect := by
  unfold settled at stops
  unfold step
  cases found : next? m.frames with
  | none =>
    rw [found] at stops
    cases stops
  | some focus =>
    rw [found] at stops
    obtain ⟨head', rest', ⟨body', rest'', again', opened'⟩, outer'⟩ := focus
    cases stops
    rfl

end Machine

namespace Storage

def Named (p : Program) : Prop :=
  ∀ t ∈ p, t.kind = .variable → t.text ≠ []

namespace Context

theorem value?_eq (c : Context) (name : Text) : c.value? name = c.view.values.get? name := by
  obtain ⟨values, procedures⟩ := c
  cases values <;> rfl

theorem procedure?_eq (c : Context) (name : Text) :
    c.procedure? name = c.view.procedures.get? name := by
  obtain ⟨values, procedures⟩ := c
  cases procedures <;> rfl

variable (c : Context) {t : Token} (named : t.kind = .variable → t.text ≠ [])

include named

theorem evaluate_eq : c.evaluate t = (c.view.evaluate t).mapError .diagnosed := by
  unfold evaluate Tables.evaluate
  by_cases kind : t.kind = .variable
  · rw [if_pos kind, if_pos kind]
    cases text : t.text with
    | nil => exact absurd text (named kind)
    | cons sigil name =>
      simp only [value?_eq, List.drop_one, List.tail_cons]
      cases c.view.values.get? name <;> rfl
  · rw [if_neg kind, if_neg kind]
    simp only [value?_eq]
    cases c.view.values.get? t.text <;> rfl

theorem number_eq (command : Text) :
    c.number command t = (numberArgument c.view command t).mapError .diagnosed := by
  unfold number numberArgument
  rw [evaluate_eq c named]
  cases c.view.evaluate t with
  | error d => rfl
  | ok v =>
    simp only [Except.mapError]
    cases v.float? <;> rfl

end Context

namespace Frame

/-- The frame with its place in front of the given tokens, its last ones. -/
def before (f : Frame) (rest : Program) : Frame :=
  { f with place := f.tokens.length - rest.length }

def lift (f : Frame) : Except Diagnostic (Effect × Program) → Except Stop (Effect × Frame)
  | .error d => .error (.diagnosed d)
  | .ok (effect, after) => .ok (effect, f.before after)

section Left

variable {f : Frame}

theorem before_left (inside : f.place ≤ f.tokens.length) : f.before f.left = f := by
  obtain ⟨tokens, place, passes, opened⟩ := f
  simp only at inside
  simp only [before, left, List.length_drop, mk.injEq, true_and, and_true]
  omega

theorem before_view {rest : Program} (ends : rest <:+ f.tokens) :
    (f.before rest).view = { f.view with rest := rest } := by
  have last : f.tokens.drop (f.tokens.length - rest.length) = rest :=
    (List.suffix_iff_eq_drop.mp ends).symm
  simp only [view, left, before, last]

theorem place_lt_of_left {t : Token} {rest : Program} (left : f.left = t :: rest) :
    f.place < f.tokens.length := by
  have longer : 0 < f.left.length := by simp [left]
  simp only [Frame.left, List.length_drop] at longer
  omega

theorem token?_of_left {t : Token} {rest : Program} (left : f.left = t :: rest) :
    f.tokens[f.place]? = some t := by
  have first : f.left[0]? = some t := by simp [left]
  simpa [Frame.left] using first

theorem next_left {t : Token} {rest : Program} (left : f.left = t :: rest) :
    f.next.left = rest := by
  have tail : f.left.tail = rest := by simp [left]
  simpa [Frame.left, next] using tail

theorem next_eq_before {t : Token} {rest : Program} (left : f.left = t :: rest) :
    f.next = f.before rest := by
  have inside : f.next.place ≤ f.next.tokens.length := place_lt_of_left left
  calc f.next = f.next.before f.next.left := (before_left inside).symm
    _ = f.before rest := by rw [next_left left]; rfl

theorem argument_nil (left : f.left = []) (line : Int) (what : Text) :
    f.argument line what = .error (.diagnosed ⟨.missingArgument what, line⟩) := by
  rw [argument, if_pos (List.drop_eq_nil_iff.mp left)]

theorem argument_cons {t : Token} {rest : Program} (left : f.left = t :: rest) (line : Int)
    (what : Text) : f.argument line what = .ok (t, f.next) := by
  rw [argument, if_neg (Nat.not_le.mpr (place_lt_of_left left)), token, token?_of_left left]

theorem named_of_left {t : Token} {rest : Program} (named : Named f.tokens)
    (left : f.left = t :: rest) : t.kind = .variable → t.text ≠ [] := by
  have member : t ∈ f.left := by simp [left]
  exact named t (List.mem_of_mem_drop member)

end Left

section Agreement

variable (f : Frame) (c : Context) (line : Int)

theorem interpretDefinition_eq :
    f.interpretDefinition line = f.lift (TurtleLogo.interpretDefinition line f.left) := by
  unfold interpretDefinition TurtleLogo.interpretDefinition
  cases left : f.left with
  | nil =>
    rw [argument_nil left]
    rfl
  | cons name rest =>
    have behind : f.next.tokens.drop f.next.place = rest := next_left left
    rw [argument_cons left]
    simp only [TurtleLogo.argument, Program.definitionAt, behind]
    cases Program.definition? rest <;> rfl

/-- The token looked at for the diagnostic of a loop without a block is there. -/
theorem blockFault_eq :
    f.blockFault line = .diagnosed
      ⟨if Program.startsBlock f.left then .unclosedLoop else .loopWithoutBlock, line⟩ := by
  unfold blockFault
  cases left : f.left with
  | nil =>
    rw [if_pos (List.drop_eq_nil_iff.mp left)]
    rfl
  | cons t rest =>
    rw [if_neg (Nat.not_le.mpr (place_lt_of_left left)), token, token?_of_left left]
    simp [Program.startsBlock]

variable (named : Named f.tokens)

include named

theorem withNumber_eq (name what : Text) (effect : Float → Effect) :
    f.withNumber c line name what effect =
      f.lift (TurtleLogo.withNumber c.view line name what f.left effect) := by
  unfold withNumber TurtleLogo.withNumber
  cases left : f.left with
  | nil =>
    rw [argument_nil left]
    rfl
  | cons t rest =>
    rw [argument_cons left]
    simp only [TurtleLogo.argument, c.number_eq (named_of_left named left)]
    cases numberArgument c.view name t with
    | error d => rfl
    | ok x => simp only [Except.mapError, lift, next_eq_before left]

theorem interpretVariable_eq :
    f.interpretVariable c line = f.lift (TurtleLogo.interpretVariable c.view line f.left) := by
  unfold interpretVariable TurtleLogo.interpretVariable
  cases left : f.left with
  | nil =>
    rw [argument_nil left]
    rfl
  | cons name tail =>
    have behind := next_left left
    rw [argument_cons left]
    simp only [TurtleLogo.argument]
    cases tail with
    | nil =>
      rw [argument_nil behind]
      rfl
    | cons t rest =>
      have named' : Named f.next.tokens := named
      rw [argument_cons behind]
      simp only [c.number_eq (named_of_left named' behind)]
      cases numberArgument c.view (utf8 "VAR") t with
      | error d => rfl
      | ok x =>
        simp only [Except.mapError, lift, next_eq_before behind]
        rfl

theorem interpretLoop_eq :
    f.interpretLoop c line = f.lift (TurtleLogo.interpretLoop c.view line f.left) := by
  unfold interpretLoop TurtleLogo.interpretLoop
  cases left : f.left with
  | nil =>
    rw [argument_nil left]
    rfl
  | cons t rest =>
    have behind : f.next.tokens.drop f.next.place = rest := next_left left
    have fault := f.next.blockFault_eq line
    rw [next_left left] at fault
    rw [argument_cons left]
    simp only [TurtleLogo.argument, c.evaluate_eq (named_of_left named left)]
    cases c.view.evaluate t with
    | error d => rfl
    | ok v =>
      simp only [Except.mapError]
      cases v.int? with
      | none => rfl
      | some count =>
        simp only [Program.blockAt, behind, fault]
        cases Program.block? rest with
        | none => rfl
        | some extent =>
          simp only [if_true]
          split <;> rfl

variable (inside : f.place ≤ f.tokens.length)

include inside

theorem interpretCommand_eq (command : Command) (name : Text) :
    f.interpretCommand c command name line =
      f.lift (TurtleLogo.interpretCommand c.view command name line f.left) := by
  cases command with
  | makeVariable => exact f.interpretVariable_eq c line named
  | define => exact f.interpretDefinition_eq line
  | loop => exact f.interpretLoop_eq c line named
  | forward | back | right | left => exact f.withNumber_eq c line named _ _ _
  | setColor =>
    unfold interpretCommand TurtleLogo.interpretCommand
    cases left : f.left with
    | nil =>
      rw [argument_nil left]
      rfl
    | cons t rest =>
      rw [argument_cons left]
      simp only [TurtleLogo.argument, lift, next_eq_before left]
  | penUp | penDown | clear | nothing =>
    simp only [interpretCommand, TurtleLogo.interpretCommand, lift, before_left inside]

theorem interpret_eq (head : Token) :
    f.interpret c head = f.lift (TurtleLogo.interpret c.view head f.left) := by
  unfold interpret TurtleLogo.interpret
  simp only [c.procedure?_eq]
  cases Command.named? (Text.upper head.text) with
  | some command => exact f.interpretCommand_eq c head.line named inside command _
  | none =>
    cases c.view.procedures.get? (Text.upper head.text) with
    | none => rfl
    | some body => simp only [lift, before_left inside]

end Agreement

end Frame

/-! ## The search for the next head -/

theorem settle_view (frames : List Frame) :
    (settle frames).map Frame.view = TurtleLogo.Machine.settled (frames.map Frame.view) := by
  fun_induction settle frames with
  | case1 => rfl
  | case2 f outer ending passes ih =>
    have turn : TurtleLogo.Machine.turn? ((f :: outer).map Frame.view) =
        some (({ f with place := 0, passes := f.passes - 1 } :: outer).map Frame.view) := by
      obtain ⟨again, more⟩ : ∃ again, (f.passes - 1).toNat = again + 1 :=
        ⟨(f.passes - 1 - 1).toNat, by omega⟩
      have fewer : (f.passes - 1 - 1).toNat = again := by omega
      simp only [List.map_cons, TurtleLogo.Machine.turn?, Frame.view, Frame.left,
        List.drop_eq_nil_of_le ending, List.drop_zero, more, fewer]
    rw [ih, TurtleLogo.Machine.settled_of_turn turn]
  | case3 f outer ending last ih =>
    have turn : TurtleLogo.Machine.turn? ((f :: outer).map Frame.view) =
        some (outer.map Frame.view) := by
      have lastPass : (f.passes - 1).toNat = 0 := by omega
      simp only [List.map_cons, TurtleLogo.Machine.turn?, Frame.view, Frame.left,
        List.drop_eq_nil_of_le ending, lastPass]
    rw [ih, TurtleLogo.Machine.settled_of_turn turn]
  | case4 f outer going =>
    have left : f.view.rest = f.tokens[f.place] :: f.tokens.drop (f.place + 1) :=
      List.drop_eq_getElem_cons (Nat.lt_of_not_le going)
    rw [List.map_cons, TurtleLogo.Machine.settled_of_head left]

theorem place_lt_of_settle {frames outer : List Frame} {f : Frame}
    (stops : settle frames = f :: outer) : f.place < f.tokens.length := by
  fun_induction settle frames with
  | case1 => cases stops
  | case2 g outer' ending passes ih => exact ih stops
  | case3 g outer' ending last ih => exact ih stops
  | case4 g outer' going =>
    cases stops
    exact Nat.lt_of_not_le going

/-! ## What a step does -/

namespace Machine

/-- A diagnostic closes all frames, and takes the first known line of theirs. -/
theorem report_diagnosed {m : Machine} {frames : List Frame} (stack : m.stack = some frames)
    (head : Token) (d : Diagnostic) :
    m.report head (.error (.diagnosed d)) =
      .ok (.failed (TurtleLogo.Machine.tagged d head.line (frames.map Frame.view)),
        { m with stack := some [] }) := by
  simp only [report, unwind, stack, TurtleLogo.Machine.tagged, List.foldl_map]
  rfl

/-- With its tables and its innermost frame there, a machine dispatches a head as that frame says. -/
theorem dispatch_eq {m : Machine} {c : Context} {f : Frame} {outer : List Frame} {head : Token}
    (context : m.context = some c) (stack : m.stack = some (f :: outer)) (named : Named f.tokens)
    (inside : f.place ≤ f.tokens.length) :
    m.dispatch head =
      match interpret c.view head f.left with
      | .error d => .error (.diagnosed d)
      | .ok (effect, after) =>
        ({ m with stack := some (f.before after :: outer) }).perform c head effect := by
  simp only [dispatch, context, stack, f.interpret_eq c named inside head]
  cases interpret c.view head f.left <;> rfl

/-- Doing what a head asks for comes to the same in storage, once the tables are made. -/
theorem perform_eq {m : Machine} {r : TurtleLogo.Machine} {c : Context} {frames : List Frame}
    (context : m.context = some c) (stack : m.stack = some frames)
    (values : c.values.isSome) (procedures : c.procedures.isSome) (tables : r.tables = c.view)
    (steps : m.steps = r.steps + 1) (maxDepth : m.maxDepth = r.maxDepth) (head : Token)
    (effect : Effect) :
    (∃ i m', m.perform c head effect = .ok (i, m') ∧
      r.perform head (frames.map Frame.view) effect = (.moved i, m'.view)) ∨
    ∃ d, m.perform c head effect = .error (.diagnosed d) ∧
      r.perform head (frames.map Frame.view) effect = r.abort head (frames.map Frame.view) d := by
  have unchanged : m.view =
      { r with frames := frames.map Frame.view, steps := r.steps + 1 } := by
    simp [view, Machine.frames, context, stack, steps, maxDepth, ← tables]
  cases effect with
  | nothing => exact .inl ⟨none, m, rfl, by rw [unchanged]; rfl⟩
  | draw i => exact .inl ⟨some i, m, rfl, by rw [unchanged]; rfl⟩
  | assign name x =>
    obtain ⟨table, made⟩ := Option.isSome_iff_exists.mp values
    refine .inl ⟨none, { m with context := some { c with values := some (table.set name x) } },
      by simp only [perform, made], ?_⟩
    simp [TurtleLogo.Machine.perform, view, Machine.frames, Context.view, stack, steps, maxDepth,
      tables, made]
  | define name body =>
    obtain ⟨table, made⟩ := Option.isSome_iff_exists.mp procedures
    refine .inl ⟨none,
      { m with context := some { c with procedures := some (table.set name body) } },
      by simp only [perform, made], ?_⟩
    simp [TurtleLogo.Machine.perform, view, Machine.frames, Context.view, stack, steps, maxDepth,
      tables, made]
  | enter body again =>
    have limits : m.limit = r.limit := by simp [limit, TurtleLogo.Machine.limit, maxDepth]
    by_cases full : r.limit ≤ frames.length
    · refine .inr ⟨⟨.tooDeep r.limit, head.line⟩, ?_, ?_⟩
      · simp [perform, push, stack, limits, full]
      · simp [TurtleLogo.Machine.perform, full]
    · refine .inl ⟨none,
        { m with stack := some (⟨body, 0, again + 1, head.line⟩ :: frames) }, ?_, ?_⟩
      · simp [perform, push, stack, limits, full]
      · simp [TurtleLogo.Machine.perform, full, view, Machine.frames, Frame.view, Frame.left,
          TurtleLogo.Frame.start, context, steps, maxDepth, tables]

end Machine

end Storage

end TurtleLogo
