import TurtleLogo.Server
import TurtleLogo.Proofs.Termination

/-!
# Rendering and running

A program can be drawn in two ways. The session runs it, paced by waits, and the canvas is asked for
afterwards; or it is rendered on a machine and a turtle of its own. On a server that has done nothing
yet the two agree, in the drawing as well as in what is wrong with the program.
-/

set_option autoImplicit false

namespace TurtleLogo

theorem Run.diagnosed_of_undisturbed {r : Run} {e : RunError} (undisturbed : r.undisturbed)
    (failed : r.error = some e) : ∃ d, e = .diagnosed d := by
  cases e with
  | diagnosed d => exact ⟨d, rfl⟩
  | interrupted steps reason =>
    rw [Run.undisturbed, failed] at undisturbed
    cases undisturbed

theorem Run.undisturbed_of_success {r : Run} (success : r.error = none) : r.undisturbed := by
  rw [Run.undisturbed, success]

namespace Request

def get (target : String) : Request :=
  ⟨utf8 "GET", utf8 target, []⟩

def post (target : String) (body : Text) : Request :=
  ⟨utf8 "POST", utf8 target, body⟩

end Request

namespace Server

/-! ## Requests and their answers -/

def Occasion.calm (now : Int) : Occasion :=
  ⟨now, Waits.never, [], fun _ => false⟩

def answer (s : Server) (o : Occasion) (r : Request) : Server × Response :=
  let (s, reply) := s.handle o r
  (s, reply.response)

theorem receive_of_allowed (s : Server) (o : Occasion) {r : Request} {route : Route}
    (routed : Route.ofPath (Target.path r.target) = route) (allowed : route.method? = some r.method)
    (named : r.method.isEmpty = false) : s.receive o r = s.follow o r route := by
  obtain ⟨method, target, body⟩ := r
  simp only at routed allowed named
  simp [receive, receiveAt, routed, allowed, named]

theorem receive_render (s : Server) (o : Occasion) (source : Text) :
    s.receive o (.post "/render" source) =
      ((s.render (s.renderWaits o.late) source).1,
        .answered (s.render (s.renderWaits o.late) source).2) := by
  have routed : Route.ofPath (Target.path (utf8 "/render")) = .render := by decide
  rw [s.receive_of_allowed o routed rfl rfl]
  rfl

theorem receive_run (s : Server) (o : Occasion) (source : Text) :
    s.receive o (.post "/run" source) = s.startTask (.program source) := by
  have routed : Route.ofPath (Target.path (utf8 "/run")) = .run := by decide
  rw [s.receive_of_allowed o routed rfl rfl]
  rfl

theorem receive_canvas (s : Server) (o : Occasion) :
    s.receive o (.get "/canvas.svg") =
      (s, .plain { Response.drawing s.session.turtle.svg with cacheControl := utf8 "no-store" }) := by
  have routed : Route.ofPath (Target.path (utf8 "/canvas.svg")) = .canvas := by decide
  rw [s.receive_of_allowed o routed rfl rfl]
  rfl

theorem answer_render (s : Server) (o : Occasion) (source : Text) :
    s.answer o (.post "/render" source) =
      ((s.render (s.renderWaits o.late) source).1,
        (s.render (s.renderWaits o.late) source).2.response) := by
  rw [answer, handle, receive_render]

theorem answer_canvas (s : Server) (o : Occasion) :
    s.answer o (.get "/canvas.svg") =
      (s, { Response.drawing s.session.turtle.svg with cacheControl := utf8 "no-store" }) := by
  rw [answer, handle, receive_canvas]
  rfl

/-! ## The two ways to draw -/

section Render

variable {s : Server} {waits : Waits} {source : Text}

theorem render_of_found {svg : Text} {cache : Cache}
    (found : s.cache.look (Fingerprint.of source) = some (svg, cache)) :
    s.render waits source = ({ s with cache := cache },
      .plain { Response.drawing svg with cacheNote := utf8 "hit" }) := by
  simp [render, found]

theorem render_of_failed {e : RunError} (missing : s.cache.look (Fingerprint.of source) = none)
    (failed : (s.drawn waits source).1.error = some e) :
    s.render waits source = (s, ⟨Response.runFailure e, s.runFailureEntry e, 0⟩) := by
  simp [render, missing, failed]

theorem render_of_drawn (missing : s.cache.look (Fingerprint.of source) = none)
    (succeeded : (s.drawn waits source).1.error = none) :
    s.render waits source =
      ({ s with cache := s.cache.put (Fingerprint.of source) (s.drawn waits source).2.svg },
        .plain { Response.drawing (s.drawn waits source).2.svg with cacheNote := utf8 "miss" }) := by
  simp [render, missing, succeeded]

end Render

theorem look_start (settings : Settings) (session : Session) (store : Option Store) (log : Logger)
    (key : Text) : (start settings session store log).cache.look key = none :=
  rfl

theorem startTask_of_free {s : Server} (free : s.session.running = false) (source : Text) :
    s.startTask (.program source) =
      ({ s with session := { s.session with running := true } }, .paused (.run (.program source))) := by
  simp [startTask, Session.begin, Session.take, free, Except.map, Session.prepare, Task.clears]

theorem resume_run_server (s : Server) (t : Task) (own : Waits) (elapsed : Text) :
    (s.resume (.run t) own elapsed).1 =
      { s with session := (s.session.execute t (s.waits own)).1.release } := by
  simp only [resume]
  split <;> rfl

theorem resume_run_response (s : Server) (t : Task) (own : Waits) (elapsed : Text) :
    (s.resume (.run t) own elapsed).2.response =
      match (s.session.execute t (s.waits own)).2.error with
      | some e => .runFailure e
      | none => .success t.finished (s.session.execute t (s.waits own)).2.steps := by
  simp only [resume]
  split <;> simp_all

theorem resume_run_waits (s : Server) (t : Task) (own : Waits) (elapsed : Text) :
    (s.resume (.run t) own elapsed).2.waits =
      (s.session.machine.run t.source (s.waits own)).waits := by
  simp only [resume]
  split <;> rfl

theorem waits_of_up {s : Server} (up : s.canceled = false) (own : Waits) : s.waits own = own := by
  funext k
  cases outcome : own k <;> simp [waits, outcome, up]

/-- A program that the session ran is drawn on the canvas, and the answer goes by its run. -/
theorem answer_run {s : Server} (free : s.session.running = false) (o : Occasion) (source : Text)
    {ran : Run} (run : s.session.machine.run source (s.waits o.waits) = ran) :
    (s.answer o (.post "/run" source)).1.session.turtle =
        s.session.turtle.followAll ran.instructions ∧
      (s.answer o (.post "/run" source)).2 =
        match ran.error with
        | some e => .runFailure e
        | none => .success (Task.program source).finished ran.machine.steps := by
  subst run
  rw [answer, handle, receive_run, startTask_of_free free]
  simp only [resume_run_server, resume_run_response]
  exact ⟨rfl, rfl⟩

/-- Rendering a program gives what running it gives, on a server that has done nothing yet and if no
wait breaks either of them off. Both succeed or both fail. If they succeed, the drawing is the canvas
that the run leaves; if they fail, the answers are the same and say what is wrong with the program. -/
theorem rendering_agrees_with_running (settings : Settings) (store : Option Store) (log : Logger)
    (source : Text) (aside within later : Occasion)
    (drawn :
      let server := start settings (.fresh settings log) store log
      (server.drawn (server.renderWaits aside.late) source).1.undisturbed)
    (ran : ((Session.fresh settings log).machine.run source within.waits).undisturbed) :
    let server := start settings (.fresh settings log) store log
    let rendered := (server.answer aside (.post "/render" source)).2
    let (after, answered) := server.answer within (.post "/run" source)
    let canvas := (after.answer later (.get "/canvas.svg")).2
    (rendered.status = 200 ↔ answered.status = 200) ∧
      (rendered.status = 200 → canvas.status = 200 ∧ rendered.body = canvas.body) ∧
      (rendered.status ≠ 200 → ∃ d, rendered = .diagnosed d ∧ answered = .diagnosed d) := by
  intro server rendered
  have running : server.session.machine.run source (server.waits within.waits) =
      (server.drawn (server.renderWaits aside.late) source).1 := by
    rw [waits_of_up rfl]
    exact (Machine.run_of_undisturbed ran).trans (Machine.run_of_undisturbed drawn).symm
  obtain ⟨turtle, response⟩ := answer_run (s := server) rfl within source running
  have canvas := answer_canvas (server.answer within (.post "/run" source)).1 later
  have render : rendered = (server.render (server.renderWaits aside.late) source).2.response :=
    congrArg Prod.snd (answer_render server aside source)
  simp only
  rw [canvas, turtle, response, render]
  cases failed : (server.drawn (server.renderWaits aside.late) source).1.error with
  | none =>
    rw [render_of_drawn (look_start ..) failed]
    exact ⟨⟨fun _ => rfl, fun _ => rfl⟩, fun _ => ⟨rfl, rfl⟩, fun differs => absurd rfl differs⟩
  | some e =>
    obtain ⟨d, rfl⟩ := Run.diagnosed_of_undisturbed drawn failed
    rw [render_of_failed (look_start ..) failed]
    refine ⟨Iff.rfl, ?_, fun _ => ⟨d, rfl, rfl⟩⟩
    intro success
    cases success

/-- A program that calls its own procedure is rendered and run with success. -/
theorem rendering_agrees_with_running_calls :
    let server := start .standard (.fresh .standard .silent) none .silent
    let source := utf8 "DEF A PU END A"
    let calm := Occasion.calm 0
    let rendered := (server.answer calm (.post "/render" source)).2
    let after := (server.answer calm (.post "/run" source)).1
    (server.drawn (server.renderWaits calm.late) source).1.undisturbed ∧
      (server.session.machine.run source calm.waits).undisturbed ∧ rendered.status = 200 ∧
      rendered.body = (after.answer calm (.get "/canvas.svg")).2.body := by
  intro server source calm rendered after
  have waits : server.renderWaits calm.late = Waits.never := rfl
  have success : ((Machine.fresh 512).run source Waits.never).error = none := by cbv
  have drawn : (server.drawn (server.renderWaits calm.late) source).1.error = none := by
    rw [waits]
    exact success
  have agrees := rendering_agrees_with_running .standard none .silent source calm calm calm
    (Run.undisturbed_of_success drawn) (Run.undisturbed_of_success success)
  have status : rendered.status = 200 := by
    show (server.answer calm (.post "/render" source)).2.status = 200
    rw [answer_render, render_of_drawn (look_start ..) drawn]
    rfl
  exact ⟨Run.undisturbed_of_success drawn, Run.undisturbed_of_success success, status,
    (agrees.2.1 status).2⟩

end Server

end TurtleLogo
