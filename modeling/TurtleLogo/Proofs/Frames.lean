import TurtleLogo.Proofs.Recency

/-!
# What requests may change

A request changes at most one of three things: the session, the store, or the cache. Which one is
decided by its method and its path, and a request that is refused changes nothing.
-/

set_option autoImplicit false

namespace TurtleLogo

namespace Route

/-! ## Paths and their routes -/

def Describes (path : Text) : Route → Prop
  | .run => path = utf8 "/run"
  | .clear => path = utf8 "/clear"
  | .canvas => path = utf8 "/canvas.svg"
  | .render => path = utf8 "/render"
  | .samples => path = utf8 "/samples"
  | .runSample name => path = utf8 "/samples/" ++ name ++ utf8 "/run"
  | .programs => path = utf8 "/programs"
  | .program name => path = utf8 "/programs/" ++ name ∧ ¬utf8 "/run" <:+ name
  | .runProgram name => path = utf8 "/programs/" ++ name ++ utf8 "/run"
  | .unknown => True

theorem before?_eq_some_iff {ending t before : Text} :
    before? ending t = some before ↔ t = before ++ ending := by
  rw [before?, Option.map_eq_some_iff]
  constructor
  · rintro ⟨rest, found, rfl⟩
    have split := List.isPrefixOf?_eq_some_iff_append_eq.mp found
    rw [← List.reverse_reverse t, ← split]
    simp
  · rintro rfl
    exact ⟨before.reverse, List.isPrefixOf?_eq_some_iff_append_eq.mpr (by simp), by simp⟩

theorem before?_eq_none {ending t : Text} (missing : before? ending t = none) :
    ¬ending <:+ t := by
  rintro ⟨before, split⟩
  rw [before?_eq_some_iff.mpr split.symm] at missing
  cases missing

theorem describes_ofSample {path rest : Text} (behind : path = utf8 "/samples/" ++ rest) :
    (ofSample rest).Describes path := by
  unfold ofSample
  split
  · rename_i name found
    rw [Describes, behind, before?_eq_some_iff.mp found, List.append_assoc]
  · trivial

theorem describes_ofProgram {path rest : Text} (behind : path = utf8 "/programs/" ++ rest) :
    (ofProgram rest).Describes path := by
  unfold ofProgram
  split
  · rename_i name found
    rw [Describes, behind, before?_eq_some_iff.mp found, List.append_assoc]
  · rename_i missing
    exact ⟨behind, before?_eq_none missing⟩

theorem describes_ofPath (path : Text) : (ofPath path).Describes path := by
  unfold ofPath
  split_ifs with run clear canvas render samples programs
  · exact eq_of_beq run
  · exact eq_of_beq clear
  · exact eq_of_beq canvas
  · exact eq_of_beq render
  · exact eq_of_beq samples
  · exact eq_of_beq programs
  · split
    · rename_i rest found
      exact describes_ofSample (List.isPrefixOf?_eq_some_iff_append_eq.mp found).symm
    · rename_i rest _ found
      exact describes_ofProgram (List.isPrefixOf?_eq_some_iff_append_eq.mp found).symm
    · trivial

end Route

def Response.Refuses (r : Response) : Prop :=
  r.status ∈ [400, 404, 405, 409]

theorem Response.not_refuses {r : Response} (status : Nat) (answered : r.status = status)
    (accepted : status ∉ [400, 404, 405, 409]) : ¬r.Refuses := by
  rw [Refuses, answered]
  exact accepted

theorem Response.not_refuses_runFailure (e : RunError) : ¬(runFailure e).Refuses := by
  have accepted : ∀ status ∈ [422, 500, 503], status ∉ [400, 404, 405, 409] := by decide
  exact not_refuses _ rfl (accepted _ (status_runFailure e))

namespace Server

/-! ## Handling a request -/

def settle (o : Occasion) : Server × Stage → Server × Response
  | (s, .answered reply) => (s, reply.response)
  | (s, .paused p) =>
    let (s, reply) := s.resume p o.waits o.elapsed
    (s, reply.response)

def answerAt (s : Server) (o : Occasion) (path : Text) (r : Request) : Server × Response :=
  settle o (s.receiveAt o path r)

theorem answer_eq_answerAt (s : Server) (o : Occasion) (r : Request) :
    s.answer o r = s.answerAt o (Target.path r.target)
      { r with method := if r.method.isEmpty then utf8 "GET" else r.method } := by
  simp only [answer, handle, answerAt, receive]
  generalize s.receiveAt o _ _ = received
  obtain ⟨s, stage⟩ := received
  cases stage <;> rfl

/-- Whether a route leads to a run or clears the canvas. -/
def Reaches (s : Server) : Route → Prop
  | .run => True
  | .clear => True
  | .runSample name => (Sample.find? name).isSome
  | .runProgram name => ∃ store row, s.store = some store ∧ store.live? (Text.trim name) = some row
  | _ => False

/-- What a request with a method and a route can change: nothing, or the cache, the session or the
store alone. -/
inductive Change (s : Server) (method : Text) (route : Route) : Server × Response → Prop
  | nothing (response : Response) : Change s method route (s, response)
  | cache {cache : Cache} {response : Response} (accepted : ¬response.Refuses) :
      Change s method route ({ s with cache := cache }, response)
  | session {session : Session} {response : Response} (reaches : s.Reaches route)
      (posted : method = utf8 "POST") (accepted : ¬response.Refuses) :
      Change s method route ({ s with session := session }, response)
  | store {name : Text} {store : Store} {response : Response} (one : route = .program name)
      (writes : method = utf8 "PUT" ∨ method = utf8 "DELETE") (accepted : ¬response.Refuses) :
      Change s method route ({ s with store := some store }, response)

section Change

variable (s : Server) (o : Occasion) {r : Request} {route : Route}

theorem change_startTask (reaches : s.Reaches route) (posted : r.method = utf8 "POST") (t : Task) :
    s.Change r.method route (settle o (s.startTask t)) := by
  unfold startTask
  split
  · exact .nothing _
  · rename_i session _
    have server := resume_run_server { s with session := session } t o.waits o.elapsed
    have response := resume_run_response { s with session := session } t o.waits o.elapsed
    simp only [settle]
    rw [server, response]
    apply Change.session reaches posted
    split
    · exact Response.not_refuses_runFailure _
    · exact Response.not_refuses 200 rfl (by decide)

theorem change_render (waits : Waits) (source : Text) :
    s.Change r.method route ((s.render waits source).1, (s.render waits source).2.response) := by
  cases found : s.cache.look (Fingerprint.of source) with
  | some hit =>
    rw [render_of_found found]
    exact .cache (Response.not_refuses 200 rfl (by decide))
  | none =>
    cases outcome : (s.drawn waits source).1.error with
    | some e =>
      rw [render_of_failed found outcome]
      exact .nothing _
    | none =>
      rw [render_of_drawn found outcome]
      exact .cache (Response.not_refuses 200 rfl (by decide))

theorem change_program (store : Store) (now : Int) (name : Text) (r : Request) :
    s.Change r.method (.program name)
      ((s.program store now name r).1, (s.program store now name r).2.response) := by
  simp only [program]
  split_ifs with get put delete
  · split <;> exact .nothing _
  · split
    · exact .nothing _
    · exact .store rfl (.inl (eq_of_beq put))
        (Response.not_refuses 200 rfl (by decide))
  · split
    · exact .nothing _
    · exact .store rfl (.inr (eq_of_beq delete))
        (Response.not_refuses 204 rfl (by decide))
  · exact .nothing _

theorem live_of_load {store : Store} {m : Store.Moment} {name : Text} {row : Store.Row}
    (loaded : store.load m name = .ok row) : store.live? (Text.trim name) = some row := by
  simp only [Store.load] at loaded
  split at loaded
  · cases loaded
  · split at loaded
    · cases loaded
      assumption
    · cases loaded

theorem change_follow (allowed : ∀ method, route.method? = some method → r.method = method) :
    s.Change r.method route (settle o (s.follow o r route)) := by
  cases route with
  | run =>
    have reaches : s.Reaches .run := trivial
    exact s.change_startTask o reaches (allowed _ rfl) _
  | clear =>
    have reaches : s.Reaches .clear := trivial
    exact .session reaches (allowed _ rfl)
      (Response.not_refuses 200 rfl (by decide))
  | canvas => exact .nothing _
  | render => exact s.change_render _ r.body
  | samples => exact .nothing _
  | unknown => exact .nothing _
  | runSample name =>
    simp only [follow]
    split
    · exact .nothing _
    · rename_i sample found
      have reaches : s.Reaches (.runSample name) := by simp [Reaches, found]
      exact s.change_startTask o reaches (allowed _ rfl) _
  | programs =>
    simp only [follow]
    repeat' split
    all_goals exact .nothing _
  | program name =>
    simp only [follow]
    split
    · exact .nothing _
    · exact s.change_program _ o.now name r
  | runProgram name =>
    simp only [follow]
    split
    · exact .nothing _
    · rename_i store kept
      split
      · exact .nothing _
      · rename_i row loaded
        have reaches : s.Reaches (.runProgram name) := ⟨store, row, kept, live_of_load loaded⟩
        exact s.change_startTask o reaches (allowed _ rfl) _

theorem change_answerAt (path : Text) (r : Request) :
    s.Change r.method (Route.ofPath path) (s.answerAt o path r) := by
  simp only [answerAt, receiveAt]
  split
  · rename_i method only
    split_ifs with fits
    · apply s.change_follow o
      intro method' only'
      rw [only] at only'
      exact (eq_of_beq fits).trans (Option.some.inj only')
    · exact .nothing _
  · rename_i any
    apply s.change_follow o
    intro method only
    rw [any] at only
    cases only

end Change

/-! ## Which requests may change what -/

def ConcernsSession (s : Server) (method path : Text) : Prop :=
  method = utf8 "POST" ∧
    (path = utf8 "/run" ∨ path = utf8 "/clear" ∨
      (∃ x, path = utf8 "/samples/" ++ x ++ utf8 "/run" ∧ (Sample.find? x).isSome) ∨
      ∃ x store row, path = utf8 "/programs/" ++ x ++ utf8 "/run" ∧ s.store = some store ∧
        store.live? (Text.trim x) = some row)

def ConcernsStore (method path : Text) : Prop :=
  (method = utf8 "PUT" ∨ method = utf8 "DELETE") ∧
    ∃ x, path = utf8 "/programs/" ++ x ∧ ¬utf8 "/run" <:+ x

theorem concernsSession_of_reaches {s : Server} {path : Text}
    (reaches : s.Reaches (Route.ofPath path)) : s.ConcernsSession (utf8 "POST") path := by
  have described := Route.describes_ofPath path
  refine ⟨rfl, ?_⟩
  cases route : Route.ofPath path <;> rw [route] at reaches described
  case run => exact .inl described
  case clear => exact .inr (.inl described)
  case runSample name => exact .inr (.inr (.inl ⟨name, described, reaches⟩))
  case runProgram name =>
    obtain ⟨store, row, kept, live⟩ := reaches
    exact .inr (.inr (.inr ⟨name, store, row, described, kept, live⟩))
  all_goals exact absurd reaches id

/-- A request leaves the session as it is unless it concerns the session, and the store unless it
concerns the store. If it is refused it leaves both as they are, and the cache. -/
theorem requests_change_what_they_concern (s : Server) (o : Occasion) (path : Text) (r : Request) :
    let (after, response) := s.answerAt o path r
    (¬s.ConcernsSession r.method path → after.session = s.session) ∧
      (¬ConcernsStore r.method path → after.store = s.store) ∧
      (response.status ∈ [400, 404, 405, 409] →
        after.session = s.session ∧ after.store = s.store ∧ after.cache = s.cache) := by
  have change := s.change_answerAt o path r
  generalize s.answerAt o path r = result at change ⊢
  cases change with
  | nothing response => exact ⟨fun _ => rfl, fun _ => rfl, fun _ => ⟨rfl, rfl, rfl⟩⟩
  | cache accepted => exact ⟨fun _ => rfl, fun _ => rfl, fun refused => absurd refused accepted⟩
  | session reaches posted accepted =>
    refine ⟨?_, fun _ => rfl, fun refused => absurd refused accepted⟩
    intro unconcerned
    rw [posted] at unconcerned
    exact absurd (concernsSession_of_reaches reaches) unconcerned
  | @store name store response one writes accepted =>
    refine ⟨fun _ => rfl, ?_, fun refused => absurd refused accepted⟩
    intro unconcerned
    have described := Route.describes_ofPath path
    rw [one] at described
    exact absurd ⟨writes, name, described⟩ unconcerned

/-- A program is asked for, and one whose name ends like a request to run it is to be deleted. -/
theorem requests_change_what_they_concern_kept :
    let store : Store := ⟨[Store.Row.create (utf8 "a") (utf8 "PU") 0], false⟩
    let s := start .standard (.fresh .standard .silent) (some store) .silent
    let calm := Occasion.calm 0
    let (read, found) := s.answer calm (.get "/programs/a")
    let (kept, refusal) := s.answer calm ⟨utf8 "DELETE", utf8 "/programs/a%2Frun", []⟩
    found.status = 200 ∧ read.session = s.session ∧ read.store = s.store ∧ refusal.status = 405 ∧
      kept.session = s.session ∧ kept.store = s.store ∧ kept.cache = s.cache := by
  intro store s calm
  simp only [answer_eq_answerAt]
  have reading := s.requests_change_what_they_concern calm
    (Target.path (utf8 "/programs/a")) (.get "/programs/a")
  have deleting := s.requests_change_what_they_concern calm
    (Target.path (utf8 "/programs/a%2Frun")) ⟨utf8 "DELETE", utf8 "/programs/a%2Frun", []⟩
  have session : ¬s.ConcernsSession (utf8 "GET") (Target.path (utf8 "/programs/a")) := by
    rintro ⟨post, -⟩
    exact absurd post (by decide)
  have stored : ¬ConcernsStore (utf8 "GET") (Target.path (utf8 "/programs/a")) := by
    rintro ⟨put | delete, -⟩
    · exact absurd put (by decide)
    · exact absurd delete (by decide)
  exact ⟨rfl, reading.1 session, reading.2.1 stored, rfl, deleting.2.2 (by decide +kernel)⟩

end Server

end TurtleLogo
