import TurtleLogo.Proofs.Waiting
import TurtleLogo.Proofs.Rendering

/-!
# How runs fail

A run succeeds, or a diagnostic says what is wrong with its program, or one of its waits breaks it
off. In all three cases no frame stays open. Waits as the settings ask for them report nothing but
that the server is shut down, and those of a render also that its time is over; so no client who
asks for a drawing meets an internal error.
-/

set_option autoImplicit false

namespace TurtleLogo

/-! ## The ends of runs -/

/-- The ways for a run to end. The waits that it makes go well, except for the last one of a run that
is broken off, which comes after as many steps as there were waits. -/
inductive Run.Classified (waits : Waits) (r : Run) : Prop
  | success (error : r.error = none) (well : ∀ k, 1 ≤ k → k ≤ r.waits → waits k = none)
  | diagnosed (d : Diagnostic) (error : r.error = some (.diagnosed d))
      (well : ∀ k, 1 ≤ k → k ≤ r.waits → waits k = none)
  | interrupted (reason : Interruption)
      (error : r.error = some (.interrupted r.machine.steps reason))
      (fails : waits r.waits = some reason) (counted : r.machine.steps = r.waits)
      (well : ∀ k, 1 ≤ k → k < r.waits → waits k = none)

namespace Machine

theorem Proceeds.classified {waits : Waits} {m : Machine} {drawn : List Instruction} {r : Run}
    (proceeds : Proceeds waits m drawn 0 r) (fresh : m.steps = 0) : r.Classified waits := by
  cases proceeds with
  | @ended k is fault last m' moves well ending =>
    cases fault with
    | none => exact .success rfl well
    | some d => exact .diagnosed d rfl well
  | @brokenOff k is i last m' reason moves well step fails =>
    have counted : m'.steps = 0 + k + 1 := by
      rw [steps_of_moved step, moves.steps, fresh]
    refine .interrupted reason rfl fails counted ?_
    intro j positive early
    exact well j positive (Nat.le_of_lt_succ early)

theorem classified_run (m : Machine) (src : Text) (waits : Waits) :
    (m.frames = [] → (m.run src waits).machine.frames = []) ∧
      (m.run src waits).Classified waits := by
  cases fault : Program.fault? (Token.scan src) with
  | some d =>
    have unused : ∀ k, 1 ≤ k → k ≤ 0 → waits k = none := by
      intro k positive made
      omega
    rw [run_of_fault fault]
    exact ⟨fun closed => closed, .diagnosed d rfl unused⟩
  | none =>
    have proceeds := proceeds_run (load_of_balanced m fault) waits
    exact ⟨fun _ => proceeds.frames, proceeds.classified rfl⟩

end Machine

/-! ## Waits -/

inductive Pacer where
  | noDelay
  | ticker (delay : Duration)

/-- What a wait may report in a given context. A ticker that has a delay to wait for need not notice
that its context is called off. -/
def Pacer.MayReport (context outcome : Option Interruption) : Pacer → Prop
  | .noDelay => outcome = context
  | .ticker delay => outcome = context ∨ 0 < delay ∧ outcome = none

def Settings.pacer (s : Settings) : Pacer :=
  if s.paced then .ticker s.running.stepDelay else .noDelay

namespace Waits

/-- The waits of a pacer in a context that has no time limit; `off k` if it has been called off by
the time of wait number `k`. -/
def PacedBy (p : Pacer) (off : Nat → Bool) (own : Waits) : Prop :=
  ∀ k, p.MayReport (if off k then some .canceled else none) (own k)

/-- The waits break a run off only because its context is over. -/
def Mild (waits : Waits) : Prop :=
  ∀ k reason, waits k = some reason → reason = .canceled ∨ reason = .timedOut

theorem PacedBy.canceled {p : Pacer} {off : Nat → Bool} {own : Waits} (paced : own.PacedBy p off)
    {k : Nat} {reason : Interruption} (fails : own k = some reason) :
    off k = true ∧ reason = .canceled := by
  have report : own k = if off k then some .canceled else none := by
    have may := paced k
    cases p with
    | noDelay => exact may
    | ticker delay =>
      rcases may with report | ⟨_, well⟩
      · exact report
      · rw [well] at fails
        cases fails
  rw [fails] at report
  cases called : off k with
  | false => simp [called] at report
  | true => simpa [called] using report

end Waits

/-! ## Answers -/

/-- The routes of requests for a drawing: programs to run or to render, and samples. -/
def Route.draws : Route → Bool
  | .run | .render => true
  | .runSample name => (Sample.find? name).isSome
  | _ => false

namespace Response

/-- The response to a request for a drawing: a drawing, what is wrong with the program, or, if
something called the run off, that it may be tried again. -/
def Drawn (calledOff : Prop) (r : Response) : Prop :=
  r.status = 200 ∨ r.status = 422 ∨ r.status = 503 ∧ calledOff

theorem Drawn.imp {calledOff calledOff' : Prop} {r : Response} (drawn : r.Drawn calledOff)
    (implies : calledOff → calledOff') : r.Drawn calledOff' := by
  rcases drawn with success | diagnosed | ⟨unavailable, off⟩
  · exact .inl success
  · exact .inr (.inl diagnosed)
  · exact .inr (.inr ⟨unavailable, implies off⟩)

theorem drawn_runFailure {m : Machine} {src : Text} {waits : Waits} (mild : waits.Mild)
    {e : RunError} (failed : (m.run src waits).error = some e) :
    (runFailure e).Drawn (∃ reason, waits (m.run src waits).waits = some reason) := by
  cases (m.classified_run src waits).2 with
  | success error =>
    rw [error] at failed
    cases failed
  | diagnosed d error =>
    rw [error] at failed
    cases failed
    exact .inr (.inl rfl)
  | interrupted reason error fails =>
    rw [error] at failed
    cases failed
    refine .inr (.inr ⟨?_, reason, fails⟩)
    rcases mild _ _ fails with rfl | rfl <;> rfl

end Response

namespace Server

theorem drawn_render (s : Server) {waits : Waits} (mild : waits.Mild) (source : Text) :
    (s.render waits source).2.response.Drawn (∃ k reason, waits k = some reason) := by
  cases found : s.cache.look (Fingerprint.of source) with
  | some hit =>
    rw [render_of_found found]
    exact .inl rfl
  | none =>
    cases outcome : (s.drawn waits source).1.error with
    | some e =>
      rw [render_of_failed found outcome]
      refine (Response.drawn_runFailure mild outcome).imp ?_
      rintro ⟨reason, fails⟩
      exact ⟨_, reason, fails⟩
    | none =>
      rw [render_of_drawn found outcome]
      exact .inl rfl

/-- A render is broken off because the server is shut down, or for its time. -/
theorem renderWaits_cases {s : Server} {late : Nat → Bool} {k : Nat} {reason : Interruption}
    (fails : s.renderWaits late k = some reason) :
    reason = .canceled ∧ s.canceled = true ∨
      reason = .timedOut ∧ (s.settings.serving.renderTimeout ≤ 0 ∨ late k = true) := by
  unfold renderWaits at fails
  split_ifs at fails with down out
  · cases fails
    exact .inl ⟨rfl, down⟩
  · cases fails
    exact .inr ⟨rfl, out⟩

theorem mild_renderWaits (s : Server) (late : Nat → Bool) : (s.renderWaits late).Mild := by
  intro k reason fails
  rcases renderWaits_cases fails with ⟨canceled, _⟩ | ⟨timedOut, _⟩
  · exact .inl canceled
  · exact .inr timedOut

section Paced

variable {s : Server} {p : Pacer} {off : Nat → Bool} {own : Waits}

theorem canceled_of_waits (paced : own.PacedBy p off) {k : Nat} {reason : Interruption}
    (fails : s.waits own k = some reason) :
    (s.canceled = true ∨ off k = true) ∧ reason = .canceled := by
  cases outcome : own k with
  | some reason' =>
    obtain ⟨called, canceled⟩ := paced.canceled outcome
    simp only [waits, outcome] at fails
    cases fails
    exact ⟨.inr called, canceled⟩
  | none =>
    simp only [waits, outcome] at fails
    split at fails
    · rename_i down
      cases fails
      exact ⟨.inl down, rfl⟩
    · cases fails

theorem drawn_resume (paced : own.PacedBy p off) (t : Task) (elapsed : Text) :
    (s.resume (.run t) own elapsed).2.response.Drawn
      (s.canceled = true ∨ off (s.resume (.run t) own elapsed).2.waits = true) := by
  have mild : (s.waits own).Mild := by
    intro k reason fails
    exact .inl (canceled_of_waits paced fails).2
  rw [resume_run_response, resume_run_waits]
  split
  · rename_i e failed
    refine (Response.drawn_runFailure mild failed).imp ?_
    rintro ⟨reason, fails⟩
    exact (canceled_of_waits paced fails).1
  · exact .inl rfl

end Paced

theorem startTask_of_busy {s : Server} (busy : s.session.running = true) (t : Task) :
    s.startTask t = (s, .plain (.failure 409 Session.Refusal.busy.message)) := by
  simp [startTask, Session.begin, Session.take, busy, Except.map]

theorem paused_startTask {s : Server} (free : s.session.running = false) (t : Task) :
    (s.startTask t).2 = .paused (.run t) := by
  simp [startTask, Session.begin, Session.take, free, Except.map]

/-- What is known of a request for a drawing once it has been received: it is answered, or it is
paused and the answer is given later, in any state of the server. -/
def Stage.Draws (s : Server) (o : Occasion) : Stage → Prop
  | .answered reply =>
    reply.response.status = 409 ∧ s.session.running = true ∨
      reply.response.Drawn
        (s.canceled = true ∨ s.settings.serving.renderTimeout ≤ 0 ∨ ∃ k, o.late k = true)
  | .paused p =>
    ∀ (later : Server) (own : Waits) (off : Nat → Bool) (elapsed : Text),
      own.PacedBy s.settings.pacer off →
        let reply := (later.resume p own elapsed).2
        reply.response.Drawn (later.canceled = true ∨ off reply.waits = true)

theorem draws_startTask (s : Server) (o : Occasion) (t : Task) : (s.startTask t).2.Draws s o := by
  cases running : s.session.running with
  | true =>
    rw [startTask_of_busy running]
    exact .inl ⟨rfl, running⟩
  | false =>
    rw [paused_startTask running]
    intro later own off elapsed paced
    exact drawn_resume paced t elapsed

theorem draws_render (s : Server) (o : Occasion) (source : Text) :
    (Stage.answered (s.render (s.renderWaits o.late) source).2).Draws s o := by
  refine .inr ((s.drawn_render (s.mild_renderWaits o.late) source).imp ?_)
  rintro ⟨k, reason, fails⟩
  rcases renderWaits_cases fails with ⟨_, down⟩ | ⟨_, timeless | late⟩
  · exact .inl down
  · exact .inr (.inl timeless)
  · exact .inr (.inr ⟨k, late⟩)

theorem draws_receive (s : Server) (o : Occasion) {r : Request} (post : r.method = utf8 "POST")
    (draws : (Route.ofPath (Target.path r.target)).draws = true) :
    (s.receive o r).2.Draws s o := by
  have named : r.method.isEmpty = false := by
    rw [post]
    rfl
  cases routed : Route.ofPath (Target.path r.target) with
  | run =>
    rw [s.receive_of_allowed o routed (congrArg some post.symm) named]
    exact s.draws_startTask o (.program r.body)
  | render =>
    rw [s.receive_of_allowed o routed (congrArg some post.symm) named]
    exact s.draws_render o r.body
  | runSample name =>
    rw [s.receive_of_allowed o routed (congrArg some post.symm) named]
    rw [routed] at draws
    obtain ⟨sample, found⟩ := Option.isSome_iff_exists.mp draws
    simp only [follow, found]
    exact s.draws_startTask o (.sample sample)
  | clear | canvas | samples | programs | program | runProgram | unknown =>
    rw [routed] at draws
    cases draws

/-- Failures stay in their class. A run on a machine without open frames leaves none open; it
succeeds, fails with a diagnostic, or is broken off by a wait whose reason and number it reports, and
it does nothing at all if the brackets are not balanced. A request for a drawing, to the session or
on a turtle of its own, is answered with a drawing, with what is wrong with the program, with a
conflict if the session is busy, or as called off if the server was shut down or the time is over. -/
theorem runs_and_answers_stay_in_class :
    (∀ (m : Machine) (src : Text) (waits : Waits), m.frames = [] →
      let r := m.run src waits
      r.machine.frames = [] ∧ r.Classified waits ∧
        ∀ d, Program.fault? (Token.scan src) = some d → r = ⟨m, [], 0, some (.diagnosed d)⟩) ∧
    (∀ (s : Server) (o : Occasion) (r : Request), r.method = utf8 "POST" →
      (Route.ofPath (Target.path r.target)).draws = true → (s.receive o r).2.Draws s o) ∧
    ∀ (s : Server) (waits : Waits) (source : Text), waits.Mild →
      (s.render waits source).2.response.Drawn (∃ k reason, waits k = some reason) := by
  refine ⟨?_, ?_, ?_⟩
  · intro m src waits closed r
    obtain ⟨closes, classified⟩ := m.classified_run src waits
    refine ⟨closes closed, classified, ?_⟩
    intro d fault
    exact Machine.run_of_fault fault waits
  · intro s o r post draws
    exact s.draws_receive o post draws
  · intro s waits source mild
    exact s.drawn_render mild source

/-- A stray bracket, a sample that is called off at its second wait, and a render whose time is over at
its first. -/
theorem runs_and_answers_stay_in_class_broken_off :
    let s := start .standard (.fresh .standard .silent) none .silent
    let own : Waits := fun k => if 2 ≤ k then some .canceled else none
    let late : Occasion := ⟨0, own, [], fun _ => true⟩
    let reply := (s.resume (.run (.sample .square)) own []).2
    (Machine.fresh 4).run (utf8 "]") Waits.never =
        ⟨.fresh 4, [], 0, some (.diagnosed ⟨.extraClosing, 1⟩)⟩ ∧
      (s.receive late (.post "/samples/square/run" [])).2 = .paused (.run (.sample .square)) ∧
      reply.response.Drawn (s.canceled = true ∨ 2 ≤ reply.waits) ∧
      (s.receive late (.post "/render" (utf8 "PU"))).2.Draws s late ∧
      (s.render (Waits.always .timedOut) (utf8 "PU")).2.response.Drawn
        (∃ k reason, Waits.always .timedOut k = some reason) := by
  intro s own late reply
  obtain ⟨runs, answers, renders⟩ := runs_and_answers_stay_in_class
  have received : (s.receive late (.post "/samples/square/run" [])).2 =
      .paused (.run (.sample .square)) := by rfl
  have fault : Program.fault? (Token.scan (utf8 "]")) = some ⟨.extraClosing, 1⟩ := by decide +kernel
  have paced : own.PacedBy s.settings.pacer (fun k => decide (2 ≤ k)) := by
    intro k
    have report : own k = if decide (2 ≤ k) = true then some .canceled else none := by simp [own]
    exact .inl report
  have sample := answers s late (.post "/samples/square/run" []) rfl (by rfl)
  rw [received] at sample
  refine ⟨(runs (.fresh 4) _ Waits.never rfl).2.2 _ fault, received, ?_,
    answers s late (.post "/render" (utf8 "PU")) rfl (by rfl), ?_⟩
  · have drawn := sample s own _ [] paced
    simpa using drawn
  · apply renders
    intro k reason fails
    cases fails
    exact .inr rfl

end Server

end TurtleLogo
