import TurtleLogo.Proofs.Rendering

/-!
# The cache of renders

Apart from the note that says so, nobody can tell whether a render comes from the cache. A drawing
depends on the settings and on its program alone, and what the cache holds is at all times the
drawings of programs that were rendered with success, each under the fingerprint of its program. So
an entry is wrong for a program only if another program has the same fingerprint.
-/

set_option autoImplicit false

namespace TurtleLogo

namespace Cache

theorem mem_of_mem_without {key : Text} {entries : List (Text × Text)} {entry : Text × Text}
    (member : entry ∈ without key entries) : entry ∈ entries :=
  (List.mem_filter.mp member).1

theorem look_eq_some {c used : Cache} {key value : Text} (found : c.look key = some (value, used)) :
    (key, value) ∈ c.entries ∧ used.entries = (key, value) :: without key c.entries := by
  unfold look at found
  split at found
  · cases found
  · rename_i key' value' entry
    have hit : key' = key := by simpa using List.find?_some entry
    cases found
    subst hit
    exact ⟨List.mem_of_find?_eq_some entry, rfl⟩

theorem mem_of_look {c used : Cache} {key value : Text} (found : c.look key = some (value, used))
    {entry : Text × Text} (member : entry ∈ used.entries) : entry ∈ c.entries := by
  obtain ⟨present, entries⟩ := look_eq_some found
  rw [entries, List.mem_cons] at member
  rcases member with rfl | member
  · exact present
  · exact mem_of_mem_without member

theorem mem_of_put {c : Cache} {key value : Text} {entry : Text × Text}
    (member : entry ∈ (c.put key value).entries) : entry = (key, value) ∨ entry ∈ c.entries := by
  rcases List.mem_cons.mp (List.mem_of_mem_take member) with new | old
  · exact .inl new
  · exact .inr (mem_of_mem_without old)

end Cache

def Settings.uncached (settings : Settings) : Settings :=
  { settings with serving := { settings.serving with cacheEntries := 0 } }

namespace Server

/-! ## What goes on at a server -/

/-- Something that goes on at a server until it is shut down. A request is handled with nothing in
between, or up to its pause; what has paused is resumed; and programs are purged. -/
inductive Incident where
  | handled (o : Occasion) (r : Request)
  | received (o : Occasion) (r : Request)
  | resumed (p : Pending) (o : Occasion)
  | purged (now : Int)

def Incident.body? : Incident → Option Text
  | .handled _ r => some r.body
  | .received _ r => some r.body
  | .resumed _ _ => none
  | .purged _ => none

def bodies (incidents : List Incident) : List Text :=
  incidents.filterMap Incident.body?

def undergo (s : Server) : Incident → Server
  | .handled o r => (s.answer o r).1
  | .received o r => (s.receive o r).1
  | .resumed p o => (s.resume p o.waits o.elapsed).1
  | .purged now => (s.purge now).1

def undergoAll (s : Server) (incidents : List Incident) : Server :=
  incidents.foldl undergo s

/-! ## What is left alone -/

structure Keeps (s s' : Server) : Prop where
  settings : s'.settings = s.settings
  canceled : s'.canceled = s.canceled
  cache : s'.cache = s.cache

theorem Keeps.refl (s : Server) : s.Keeps s :=
  ⟨rfl, rfl, rfl⟩

theorem startTask_keeps (s : Server) (t : Task) : s.Keeps (s.startTask t).1 := by
  unfold startTask
  split <;> exact ⟨rfl, rfl, rfl⟩

theorem program_keeps (s : Server) (store : Store) (now : Int) (name : Text) (r : Request) :
    s.Keeps (s.program store now name r).1 := by
  simp only [program]
  repeat' split
  all_goals exact ⟨rfl, rfl, rfl⟩

theorem follow_keeps (s : Server) (o : Occasion) (r : Request) {route : Route}
    (other : route ≠ .render) : s.Keeps (s.follow o r route).1 := by
  cases route with
  | render => exact absurd rfl other
  | run => exact s.startTask_keeps _
  | clear => exact ⟨rfl, rfl, rfl⟩
  | canvas => exact .refl s
  | samples => exact .refl s
  | unknown => exact .refl s
  | runSample name =>
    simp only [follow]
    split
    · exact .refl s
    · exact s.startTask_keeps _
  | programs =>
    simp only [follow]
    repeat' split
    all_goals exact .refl s
  | program name =>
    simp only [follow]
    split
    · exact .refl s
    · exact s.program_keeps _ o.now name r
  | runProgram name =>
    simp only [follow]
    repeat' split
    · exact .refl s
    · exact .refl s
    · exact s.startTask_keeps _

theorem follow_keeps_or_renders (s : Server) (o : Occasion) (r : Request) (route : Route) :
    s.Keeps (s.follow o r route).1 ∨
      (s.follow o r route).1 = (s.render (s.renderWaits o.late) r.body).1 := by
  by_cases render : route = .render
  · right
    rw [render, follow]
  · exact .inl (s.follow_keeps o r render)

theorem receiveAt_keeps_or_renders (s : Server) (o : Occasion) (path : Text) (r : Request) :
    s.Keeps (s.receiveAt o path r).1 ∨
      (s.receiveAt o path r).1 = (s.render (s.renderWaits o.late) r.body).1 := by
  simp only [receiveAt]
  split
  · split
    · exact s.follow_keeps_or_renders o r _
    · exact .inl (.refl s)
  · exact s.follow_keeps_or_renders o r _

/-- Of all requests, only one to render touches the cache. -/
theorem receive_keeps_or_renders (s : Server) (o : Occasion) (r : Request) :
    s.Keeps (s.receive o r).1 ∨
      (s.receive o r).1 = (s.render (s.renderWaits o.late) r.body).1 :=
  s.receiveAt_keeps_or_renders o _ _

theorem resume_keeps (s : Server) (p : Pending) (own : Waits) (elapsed : Text) :
    s.Keeps (s.resume p own elapsed).1 := by
  cases p with
  | clear => exact .refl s
  | run t =>
    rw [resume_run_server]
    exact ⟨rfl, rfl, rfl⟩

theorem purge_keeps (s : Server) (now : Int) : s.Keeps (s.purge now).1 := by
  simp only [purge]
  repeat' split
  all_goals exact ⟨rfl, rfl, rfl⟩

/-! ## Renders in time -/

/-- The time of a render is not over before its run has ended. -/
def Occasion.InTime (o : Occasion) : Prop :=
  ∀ k, o.late k = false

def drawnInTime (s : Server) (source : Text) : Run × Turtle :=
  s.drawn (s.renderWaits fun _ => false) source

theorem Occasion.InTime.renderWaits {o : Occasion} (inTime : o.InTime) (s : Server) :
    s.renderWaits o.late = s.renderWaits fun _ => false := by
  have never : o.late = fun _ => false := funext inTime
  rw [never]

/-- A render that succeeds gives what it gives in time, however late it may be. -/
theorem drawn_of_success {s : Server} {late : Nat → Bool} {source : Text}
    (success : (s.drawn (s.renderWaits late) source).1.error = none) :
    s.drawn (s.renderWaits late) source = s.drawnInTime source := by
  by_cases hopeless : s.canceled = true ∨ s.settings.serving.renderTimeout ≤ 0
  · have same : s.renderWaits late = s.renderWaits fun _ => false := by
      funext k
      rcases hopeless with down | timeless
      · simp [renderWaits, down]
      · simp [renderWaits, timeless]
    rw [drawnInTime, same]
  · have never : s.renderWaits (fun _ => false) = Waits.never := by
      funext k
      obtain ⟨up, time⟩ := not_or.mp hopeless
      simp [renderWaits, up, time, Waits.never]
    have ran := Machine.run_of_undisturbed (Run.undisturbed_of_success success)
    rw [drawnInTime, never, drawn, drawn, ran]

/-! ## Renders and their reflections -/

/-- `Mirrors bare sources s`: the server `s` draws what `bare` draws, and its cache holds drawings of
`bare`, each of one of `sources` that is drawn with success and under the fingerprint of that. -/
structure Mirrors (bare : Server) (sources : List Text) (s : Server) : Prop where
  drawn : s.drawnInTime = bare.drawnInTime
  entries : ∀ entry ∈ s.cache.entries, ∃ source ∈ sources,
    entry = (Fingerprint.of source, (bare.drawnInTime source).2.svg) ∧
      (bare.drawnInTime source).1.error = none

section Mirrors

variable {bare s s' : Server} {sources more : List Text} {source : Text}

theorem mirrors_start (settings : Settings) (session other : Session) (store : Option Store)
    (log log' : Logger) :
    Mirrors (start settings.uncached other none log') [] (start settings session store log) :=
  ⟨rfl, fun _ member => nomatch member⟩

theorem Mirrors.mono (mirrors : Mirrors bare sources s) (subset : sources ⊆ more) :
    Mirrors bare more s := by
  refine ⟨mirrors.drawn, ?_⟩
  intro entry member
  obtain ⟨seen, known, depicted⟩ := mirrors.entries entry member
  exact ⟨seen, subset known, depicted⟩

theorem Mirrors.keeps (mirrors : Mirrors bare sources s) (keeps : s.Keeps s') :
    Mirrors bare sources s' := by
  have waits : s'.renderWaits = s.renderWaits := by
    funext late k
    simp only [renderWaits, keeps.settings, keeps.canceled]
  refine ⟨?_, ?_⟩
  · rw [← mirrors.drawn]
    funext source
    rw [drawnInTime, drawnInTime, Server.drawn, Server.drawn, waits, keeps.settings]
  · rw [keeps.cache]
    exact mirrors.entries

theorem Mirrors.drawn_eq (mirrors : Mirrors bare sources s) {late : Nat → Bool}
    (success : (s.drawn (s.renderWaits late) source).1.error = none) :
    s.drawn (s.renderWaits late) source = bare.drawnInTime source :=
  (drawn_of_success success).trans (congrFun mirrors.drawn source)

theorem Mirrors.render (mirrors : Mirrors bare sources s) (late : Nat → Bool) (source : Text) :
    Mirrors bare (source :: sources) (s.render (s.renderWaits late) source).1 := by
  have grown : Mirrors bare (source :: sources) s :=
    mirrors.mono (List.subset_cons_self source sources)
  cases found : s.cache.look (Fingerprint.of source) with
  | some hit =>
    obtain ⟨svg, used⟩ := hit
    rw [render_of_found found]
    exact ⟨grown.drawn, fun entry member => grown.entries entry (Cache.mem_of_look found member)⟩
  | none =>
    cases outcome : (s.drawn (s.renderWaits late) source).1.error with
    | some e =>
      rw [render_of_failed found outcome]
      exact grown
    | none =>
      rw [render_of_drawn found outcome]
      refine ⟨grown.drawn, ?_⟩
      intro entry member
      rcases Cache.mem_of_put member with rfl | old
      · have same := mirrors.drawn_eq outcome
        rw [same] at outcome ⊢
        exact ⟨source, List.mem_cons_self, rfl, outcome⟩
      · exact grown.entries entry old

theorem Mirrors.receive (mirrors : Mirrors bare sources s) (o : Occasion) (r : Request) :
    Mirrors bare (r.body :: sources) (s.receive o r).1 := by
  rcases s.receive_keeps_or_renders o r with keeps | renders
  · exact (mirrors.keeps keeps).mono (List.subset_cons_self r.body sources)
  · rw [renders]
    exact mirrors.render o.late r.body

theorem Mirrors.answer (mirrors : Mirrors bare sources s) (o : Occasion) (r : Request) :
    Mirrors bare (r.body :: sources) (s.answer o r).1 := by
  have received := mirrors.receive o r
  unfold Server.answer handle
  cases came : s.receive o r with
  | mk s' stage =>
    rw [came] at received
    cases stage with
    | answered reply => exact received
    | paused p => exact received.keeps (s'.resume_keeps p o.waits o.elapsed)

theorem Mirrors.undergo (mirrors : Mirrors bare sources s) (incident : Incident) :
    Mirrors bare (incident.body?.toList ++ sources) (s.undergo incident) := by
  cases incident with
  | handled o r => exact mirrors.answer o r
  | received o r => exact mirrors.receive o r
  | resumed p o => exact mirrors.keeps (s.resume_keeps p o.waits o.elapsed)
  | purged now => exact mirrors.keeps (s.purge_keeps now)

theorem Mirrors.undergoAll (mirrors : Mirrors bare sources s) (incidents : List Incident) :
    Mirrors bare (bodies incidents ++ sources) (s.undergoAll incidents) := by
  induction incidents generalizing s sources with
  | nil => exact mirrors
  | cons incident later ih =>
    refine (ih (mirrors.undergo incident)).mono ?_
    cases body : incident.body? <;> simp [bodies, body]

/-- Without a collision of fingerprints, a render in time gives what it gives on the server that is
mirrored. One that fails there leaves nothing behind, in time or not. -/
theorem Mirrors.rendered (mirrors : Mirrors bare sources s)
    (apart : ∀ seen ∈ sources, Fingerprint.of seen = Fingerprint.of source → seen = source)
    (bareless : bare.cache.look (Fingerprint.of source) = none) (o : Occasion) :
    let alone := (bare.render (bare.renderWaits fun _ => false) source).2.response
    let (after, reply) := s.render (s.renderWaits o.late) source
    (o.InTime → reply.response = { alone with cacheNote := reply.response.cacheNote }) ∧
      (alone.status ≠ 200 → after = s) := by
  intro alone
  cases found : s.cache.look (Fingerprint.of source) with
  | some hit =>
    -- The entry was drawn for some program with this fingerprint, and so for this one.
    obtain ⟨svg, used⟩ := hit
    obtain ⟨seen, known, same, success⟩ := mirrors.entries _ (Cache.look_eq_some found).1
    obtain ⟨key, depicted⟩ := Prod.mk.inj same
    obtain rfl := apart seen known key.symm
    simp only [alone]
    rw [render_of_found found, render_of_drawn bareless success, depicted]
    exact ⟨fun _ => rfl, fun differs => absurd rfl differs⟩
  | none =>
    cases outcome : (s.drawn (s.renderWaits o.late) source).1.error with
    | some e =>
      rw [render_of_failed found outcome]
      refine ⟨?_, fun _ => rfl⟩
      intro inTime
      have failed : (bare.drawnInTime source).1.error = some e := by
        rw [← mirrors.drawn, drawnInTime, ← inTime.renderWaits s]
        exact outcome
      simp only [alone]
      rw [render_of_failed bareless failed]
    | none =>
      have same := mirrors.drawn_eq outcome
      have success : (bare.drawnInTime source).1.error = none := same ▸ outcome
      simp only [alone]
      rw [render_of_drawn found outcome, render_of_drawn bareless success, same]
      exact ⟨fun _ => rfl, fun differs => absurd rfl differs⟩

end Mirrors

/-- The cache is not to be seen. Whatever went on at a server since it was started, renders out of
time among it, a render in time is answered like on a server that has no cache and has had no other
request, apart from the note on the cache, if no request had a body with the same fingerprint that
was not the same. All that the cache holds comes from programs that are rendered with success, and a
render that fails leaves the server as it is. -/
theorem cache_is_not_seen (settings : Settings) (session other : Session) (store : Option Store)
    (log log' : Logger) (incidents : List Incident) (source : Text) (o o' : Occasion)
    (inTime' : o'.InTime)
    (apart : ∀ seen ∈ bodies incidents,
      Fingerprint.of seen = Fingerprint.of source → seen = source) :
    let s := (start settings session store log).undergoAll incidents
    let rendered := s.answer o (.post "/render" source)
    let bare := start settings.uncached other none log'
    let alone := fun body => (bare.answer o' (.post "/render" body)).2
    (o.InTime → rendered.2 = { alone source with cacheNote := rendered.2.cacheNote }) ∧
      (∀ entry ∈ rendered.1.cache.entries, ∃ body ∈ source :: bodies incidents,
        entry = (Fingerprint.of body, (alone body).body) ∧ (alone body).status = 200) ∧
      ((alone source).status ≠ 200 → rendered.1 = s) := by
  intro s rendered bare alone
  have mirrors : Mirrors bare (bodies incidents) s := by
    simpa using (mirrors_start settings session other store log log').undergoAll incidents
  simp only [rendered, alone, answer_render, inTime'.renderWaits]
  obtain ⟨answered, unchanged⟩ := mirrors.rendered apart (look_start ..) o
  refine ⟨answered, ?_, unchanged⟩
  intro entry member
  obtain ⟨body, known, same, success⟩ :=
    (mirrors.render o.late source).entries entry member
  refine ⟨body, known, ?_⟩
  rw [render_of_drawn (look_start ..) success]
  exact ⟨same, rfl⟩

/-- A program is rendered, run and cleared away, with two other renders in between that fail, one of
them for its time. -/
def visits : List Incident :=
  [.handled (.calm 0) (.post "/render" (utf8 "PU")), .received (.calm 1) (.post "/run" (utf8 "PU")),
    .handled (.calm 1) (.post "/render" (utf8 "]")),
    .handled ⟨1, Waits.never, [], fun _ => true⟩ (.post "/render" (utf8 "PD")),
    .resumed (.run (.program (utf8 "PU"))) (.calm 1), .received (.calm 2) (.post "/clear" []),
    .purged 3]

theorem cache_is_not_seen_visits :
    (∀ seen ∈ bodies visits, Fingerprint.of seen = Fingerprint.of (utf8 "PU") → seen = utf8 "PU") ∧
      (((start .standard (.fresh .standard .silent) none .silent).undergoAll visits).answer
          (.calm 4) (.post "/render" (utf8 "PU"))).2.body =
        ((start Settings.standard.uncached (.fresh .standard .silent) none .silent).answer
          (.calm 0) (.post "/render" (utf8 "PU"))).2.body := by
  have apart : ∀ seen ∈ bodies visits,
      Fingerprint.of seen = Fingerprint.of (utf8 "PU") → seen = utf8 "PU" := by
    decide +kernel
  have transparent := cache_is_not_seen .standard (.fresh .standard .silent)
    (.fresh .standard .silent) none .silent .silent visits (utf8 "PU") (.calm 4) (.calm 0)
    (fun _ => rfl) apart
  have body := congrArg Response.body (transparent.1 fun _ => rfl)
  exact ⟨apart, body⟩

end Server

end TurtleLogo
