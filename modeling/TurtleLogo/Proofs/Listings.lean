import TurtleLogo.Proofs.Catalog
import TurtleLogo.Proofs.Frames
import TurtleLogo.Proofs.Json

/-!
# Listed programs

Whatever goes on at a server whose store starts empty, the programs that are listed are those that
were saved under their trimmed names and not deleted since, and a listed program can be fetched under
its name. There are two exceptions. A path that ends in `/run` is one to run a program and cannot be
fetched, though blanks behind it, which are trimmed, bring such names into the store. And a name with
bytes that are no characters is listed with replacements, under which it is not found.
-/

set_option autoImplicit false

namespace TurtleLogo

/-! ## Routes to programs -/

namespace Route

theorem ofPath_programs (rest : Text) : ofPath (utf8 "/programs/" ++ rest) = ofProgram rest :=
  rfl

theorem ofProgram_of_run {rest : Text} (runs : utf8 "/run" <:+ rest) :
    ∃ name, ofProgram rest = .runProgram name := by
  obtain ⟨name, split⟩ := runs
  refine ⟨name, ?_⟩
  rw [ofProgram, before?_eq_some_iff.mpr split.symm]

theorem ofProgram_of_plain {rest : Text} (plain : ¬utf8 "/run" <:+ rest) :
    ofProgram rest = .program rest := by
  cases found : before? (utf8 "/run") rest with
  | none => rw [ofProgram, found]
  | some name => exact absurd ⟨name, (before?_eq_some_iff.mp found).symm⟩ plain

theorem ofPath_eq_program_iff {path name : Text} :
    ofPath path = .program name ↔ path = utf8 "/programs/" ++ name ∧ ¬utf8 "/run" <:+ name := by
  constructor
  · intro route
    have described := describes_ofPath path
    rw [route] at described
    exact described
  · rintro ⟨rfl, plain⟩
    rw [ofPath_programs, ofProgram_of_plain plain]

end Route

namespace Server

/-! ## What goes on at a server -/

/-- Something that goes on at a server until it is shut down. A request with its path is handled with
nothing in between, or up to its pause; what has paused is resumed; and programs are purged. -/
inductive Event where
  | handled (o : Occasion) (path : Text) (r : Request)
  | received (o : Occasion) (path : Text) (r : Request)
  | resumed (p : Pending) (o : Occasion)
  | purged (now : Int)

namespace Event

def arrival? : Event → Option (Text × Request)
  | .handled _ path r => some (path, r)
  | .received _ path r => some (path, r)
  | .resumed _ _ => none
  | .purged _ => none

/-- A request with this method concerns the program of a name, which is what is left of the one in its
path after trimming. -/
def Concerns (e : Event) (method name : Text) (r : Request) : Prop :=
  ∃ x, e.arrival? = some (utf8 "/programs/" ++ x, r) ∧ ¬utf8 "/run" <:+ x ∧ r.method = method ∧
    Text.trim x = name

def Saves (e : Event) (name source : Text) : Prop :=
  ∃ r, e.Concerns (utf8 "PUT") name r ∧ r.body = source

def Deletes (e : Event) (name : Text) : Prop :=
  ∃ r, e.Concerns (utf8 "DELETE") name r

end Event

def meet (s : Server) : Event → Server
  | .handled o path r => (s.answerAt o path r).1
  | .received o path r => (s.receiveAt o path r).1
  | .resumed p o => (s.resume p o.waits o.elapsed).1
  | .purged now => (s.purge now).1

def meetAll (s : Server) (events : List Event) : Server :=
  events.foldl meet s

/-- The source under a name: it was saved, and since then the name was neither deleted nor given another
source. -/
def Current (events : List Event) (name source : Text) : Prop :=
  name ≠ [] ∧ ∃ before e after, events = before ++ e :: after ∧ e.Saves name source ∧
    ∀ later ∈ after, ¬later.Deletes name ∧ ∀ other, ¬later.Saves name other

section Current

variable {events : List Event} {e : Event} {name source : Text}

theorem current_concat : Current (events ++ [e]) name source ↔
    (name ≠ [] ∧ e.Saves name source) ∨
      (Current events name source ∧ ¬e.Deletes name ∧ ∀ other, ¬e.Saves name other) := by
  constructor
  · rintro ⟨named, before, e', after, split, saves, spared⟩
    rcases List.eq_nil_or_concat' after with rfl | ⟨after, last, rfl⟩
    · obtain ⟨rfl, same⟩ := List.append_inj' split rfl
      cases same
      exact .inl ⟨named, saves⟩
    · rw [← List.cons_append, ← List.append_assoc] at split
      obtain ⟨rfl, same⟩ := List.append_inj' split rfl
      cases same
      refine .inr ⟨⟨named, before, e', after, rfl, saves, ?_⟩, spared e (by simp)⟩
      intro later member
      exact spared later (List.mem_append_left _ member)
  · rintro (⟨named, saves⟩ | ⟨⟨named, before, e', after, rfl, saves, spared⟩, last⟩)
    · exact ⟨named, events, e, [], rfl, saves, by simp⟩
    · refine ⟨named, before, e', after ++ [e], by simp, saves, ?_⟩
      intro later member
      rcases List.mem_append.mp member with earlier | now
      · exact spared later earlier
      · rw [List.mem_singleton.mp now]
        exact last

theorem Current.trimmed (current : Current events name source) : Text.trim name = name := by
  obtain ⟨_, _, _, _, _, ⟨_, ⟨x, _, _, _, rfl⟩, _⟩, _⟩ := current
  exact Text.trim_trim x

theorem current_concat_of_idle (deletes : ¬e.Deletes name) (saves : ∀ other, ¬e.Saves name other) :
    Current (events ++ [e]) name source ↔ Current events name source := by
  rw [current_concat]
  simp [deletes, saves]

theorem concerns_iff {path method : Text} {r r' : Request} (arrives : e.arrival? = some (path, r)) :
    e.Concerns method name r' ↔
      r' = r ∧ r.method = method ∧ ∃ x, Route.ofPath path = .program x ∧ Text.trim x = name := by
  simp only [Event.Concerns, arrives, Option.some.injEq, Prod.mk.injEq, Route.ofPath_eq_program_iff]
  constructor
  · rintro ⟨x, ⟨path, rfl⟩, plain, method, trimmed⟩
    exact ⟨rfl, method, x, ⟨path, plain⟩, trimmed⟩
  · rintro ⟨rfl, method, x, ⟨path, plain⟩, trimmed⟩
    exact ⟨x, ⟨path, rfl⟩, plain, method, trimmed⟩

theorem saves_iff {path : Text} {r : Request} (arrives : e.arrival? = some (path, r)) :
    e.Saves name source ↔ r.method = utf8 "PUT" ∧
      (∃ x, Route.ofPath path = .program x ∧ Text.trim x = name) ∧ r.body = source := by
  simp only [Event.Saves, concerns_iff arrives]
  constructor
  · rintro ⟨_, ⟨rfl, method, named⟩, body⟩
    exact ⟨method, named, body⟩
  · rintro ⟨method, named, body⟩
    exact ⟨r, ⟨rfl, method, named⟩, body⟩

theorem deletes_iff {path : Text} {r : Request} (arrives : e.arrival? = some (path, r)) :
    e.Deletes name ↔ r.method = utf8 "DELETE" ∧
      ∃ x, Route.ofPath path = .program x ∧ Text.trim x = name := by
  simp only [Event.Deletes, concerns_iff arrives]
  constructor
  · rintro ⟨_, rfl, deletes⟩
    exact deletes
  · intro deletes
    exact ⟨r, rfl, deletes⟩

theorem idle_of_silent (silent : e.arrival? = none) :
    ¬e.Deletes name ∧ ∀ other, ¬e.Saves name other := by
  constructor
  · rintro ⟨_, _, arrives, _⟩
    rw [silent] at arrives
    cases arrives
  · rintro other ⟨_, ⟨_, arrives, _⟩, _⟩
    rw [silent] at arrives
    cases arrives

end Current

end Server

/-! ## Changes of the catalog -/

namespace Store.Catalog

variable {c : Catalog} {n : Name}

theorem lookup_save (now : Int) (t source other : Text) :
    (c.reply (.save now t source)).1.lookup n = some other ↔
      if n.text = Text.trim t then source = other else c.lookup n = some other := by
  rw [reply]
  by_cases empty : Text.trim t = []
  · have apart : n.text ≠ Text.trim t := by
      rw [empty]
      exact n.nonempty
    rw [Name.of?_eq_none empty, if_neg apart]
  · obtain ⟨name, stands, same⟩ := Name.exists_of? empty
    rw [stands]
    by_cases here : n.text = Text.trim t
    · have equal : n = name := Name.ext_text (here.trans same.symm)
      rw [if_pos here, equal, Finmap.lookup_insert, Option.some.injEq]
    · have apart : n ≠ name := fun equal => here (equal ▸ same)
      rw [if_neg here, Finmap.lookup_insert_of_ne c apart]

theorem find?_of_text {t : Text} (named : n.text = Text.trim t) :
    c.find? t = (c.lookup n).map fun source => (n, source) := by
  have left : Text.trim t ≠ [] := named ▸ n.nonempty
  obtain ⟨name, stands, same⟩ := Name.exists_of? left
  have equal : name = n := Name.ext_text (same.trans named.symm)
  cases found : c.lookup n <;> simp [find?, stands, equal, found]

theorem text_of_find? {t source : Text} (found : c.find? t = some (n, source)) :
    n.text = Text.trim t := by
  by_cases empty : Text.trim t = []
  · simp [find?, Name.of?_eq_none empty] at found
  · obtain ⟨name, stands, same⟩ := Name.exists_of? empty
    rw [find?_of_text same] at found
    obtain ⟨_, _, equal⟩ := Option.map_eq_some_iff.mp found
    cases equal
    exact same

theorem lookup_delete (now : Int) (t source : Text) :
    (c.reply (.delete now t)).1.lookup n = some source ↔
      n.text ≠ Text.trim t ∧ c.lookup n = some source := by
  rw [reply]
  cases found : c.find? t with
  | none =>
    have absent (named : n.text = Text.trim t) : c.lookup n ≠ some source := by
      intro present
      rw [find?_of_text named, present] at found
      cases found
    exact ⟨fun present => ⟨fun named => absent named present, present⟩, And.right⟩
  | some entry =>
    obtain ⟨name, old⟩ := entry
    have same := text_of_find? found
    by_cases here : n = name
    · subst here
      simp [Finmap.lookup_erase, same]
    · have apart : n.text ≠ Text.trim t := fun named => here (Name.ext_text (named.trans same.symm))
      simp [Finmap.lookup_erase_ne here, apart]

end Store.Catalog

namespace Server

/-! ## One event -/

structure SameStore (s s' : Server) : Prop where
  canceled : s'.canceled = s.canceled
  store : s'.store = s.store

theorem SameStore.refl (s : Server) : s.SameStore s :=
  ⟨rfl, rfl⟩

section SameStore

variable (s : Server)

theorem sameStore_startTask (t : Task) : s.SameStore (s.startTask t).1 := by
  unfold startTask
  split <;> exact ⟨rfl, rfl⟩

theorem sameStore_render (waits : Waits) (source : Text) :
    s.SameStore (s.render waits source).1 := by
  simp only [render]
  repeat' split
  all_goals exact ⟨rfl, rfl⟩

theorem sameStore_resume (p : Pending) (own : Waits) (elapsed : Text) :
    s.SameStore (s.resume p own elapsed).1 := by
  cases p with
  | clear => exact .refl s
  | run t =>
    rw [resume_run_server]
    exact ⟨rfl, rfl⟩

theorem sameStore_settle (o : Occasion) (received : Server × Stage) :
    received.1.SameStore (settle o received).1 := by
  obtain ⟨s, stage⟩ := received
  cases stage with
  | answered reply => exact .refl s
  | paused p => exact s.sameStore_resume p o.waits o.elapsed

theorem sameStore_follow (o : Occasion) (r : Request) {route : Route}
    (other : ∀ name, route ≠ .program name) : s.SameStore (s.follow o r route).1 := by
  cases route with
  | program name => exact absurd rfl (other name)
  | run => exact s.sameStore_startTask _
  | clear => exact ⟨rfl, rfl⟩
  | canvas | samples | unknown => exact .refl s
  | render => exact s.sameStore_render _ r.body
  | runSample name =>
    simp only [follow]
    split
    · exact .refl s
    · exact s.sameStore_startTask _
  | programs =>
    simp only [follow]
    repeat' split
    all_goals exact .refl s
  | runProgram name =>
    simp only [follow]
    repeat' split
    · exact .refl s
    · exact .refl s
    · exact s.sameStore_startTask _

end SameStore

def called (s : Server) (store : Store) (call : Store.Call) : Server :=
  { s with store := some (store.reply call).1 }

section Receiving

variable {s : Server} {store : Store} {name path : Text} {r : Request}

theorem receiveAt_program (kept : s.store = some store) (o : Occasion)
    (route : Route.ofPath path = .program name) :
    (s.receiveAt o path r).1 = (s.program store o.now name r).1 := by
  simp [receiveAt, route, Route.method?, follow, kept]

theorem moment_of_up (up : s.canceled = false) (now : Int) : s.moment now = ⟨now, false⟩ := by
  rw [moment, up]

theorem program_put (up : s.canceled = false) (kept : s.store = some store) (now : Int)
    (put : r.method = utf8 "PUT") :
    (s.program store now name r).1 = s.called store (.save now name r.body) := by
  have get : (utf8 "PUT" == utf8 "GET") = false := by decide
  simp only [program, put, get, called, Store.reply, moment_of_up up, beq_self_eq_true]
  cases store.save ⟨now, false⟩ name r.body with
  | error f => simp [← kept]
  | ok after => rfl

theorem program_delete (up : s.canceled = false) (kept : s.store = some store) (now : Int)
    (delete : r.method = utf8 "DELETE") :
    (s.program store now name r).1 = s.called store (.delete now name) := by
  have get : (utf8 "DELETE" == utf8 "GET") = false := by decide
  have put : (utf8 "DELETE" == utf8 "PUT") = false := by decide
  simp only [program, delete, get, put, called, Store.reply, moment_of_up up, beq_self_eq_true]
  cases store.delete ⟨now, false⟩ name with
  | error f => simp [← kept]
  | ok after => rfl

theorem program_other (now : Int) (put : r.method ≠ utf8 "PUT") (delete : r.method ≠ utf8 "DELETE") :
    (s.program store now name r).1 = s := by
  simp only [program, beq_iff_eq, if_neg put, if_neg delete]
  repeat' split
  all_goals rfl

end Receiving

/-! ## All events -/

/-- `s.Tracks events`: the server is up, and its store holds the current sources. -/
def Tracks (s : Server) (events : List Event) : Prop :=
  s.canceled = false ∧ ∃ store c, s.store = some store ∧ store.Represents c ∧
    ∀ (n : Store.Name) source, c.lookup n = some source ↔ Current events n.text source

section Tracks

variable {s s' : Server} {events : List Event} {e : Event}

theorem tracks_start (settings : Settings) (session : Session) (log : Logger) :
    (start settings session (some Store.empty) log).Tracks [] := by
  refine ⟨rfl, Store.empty, ∅, rfl, Store.represents_empty, ?_⟩
  intro n source
  simp [Current]

theorem Tracks.sameStore (tracks : s.Tracks events) (same : s.SameStore s')
    (idle : ∀ name, ¬e.Deletes name ∧ ∀ other, ¬e.Saves name other) : s'.Tracks (events ++ [e]) := by
  obtain ⟨up, store, c, kept, represents, current⟩ := tracks
  refine ⟨same.canceled.trans up, store, c, same.store.trans kept, represents, ?_⟩
  intro n source
  rw [current n source, current_concat_of_idle (idle n.text).1 (idle n.text).2]

theorem Tracks.called {store : Store} {c : Store.Catalog} {call : Store.Call}
    (up : s.canceled = false) (represents : store.Represents c)
    (current : ∀ (n : Store.Name) source,
      (c.reply call).1.lookup n = some source ↔ Current events n.text source) :
    (s.called store call).Tracks events :=
  ⟨up, _, _, rfl, (represents.agree call).2, current⟩

theorem Tracks.receiveAt {path : Text} {r : Request} (tracks : s.Tracks events)
    (arrives : e.arrival? = some (path, r)) (o : Occasion) :
    (s.receiveAt o path r).1.Tracks (events ++ [e]) := by
  by_cases concerned : ∃ name, Route.ofPath path = .program name
  · obtain ⟨name, route⟩ := concerned
    have ⟨up, store, c, kept, represents, current⟩ := tracks
    have saves (n source : Text) : e.Saves n source ↔
        r.method = utf8 "PUT" ∧ n = Text.trim name ∧ r.body = source := by
      simp [saves_iff arrives, route, eq_comm]
    have deletes (n : Text) : e.Deletes n ↔ r.method = utf8 "DELETE" ∧ n = Text.trim name := by
      simp [deletes_iff arrives, route, eq_comm]
    rw [receiveAt_program kept o route]
    by_cases put : r.method = utf8 "PUT"
    · have delete : r.method ≠ utf8 "DELETE" := by
        rw [put]
        decide
      rw [program_put up kept o.now put]
      apply Tracks.called up represents
      intro n source
      rw [Store.Catalog.lookup_save, current, current_concat]
      by_cases here : n.text = Text.trim name
      · simp [saves, put, here, here ▸ n.nonempty]
      · simp [saves, deletes, here]
    · by_cases delete : r.method = utf8 "DELETE"
      · rw [program_delete up kept o.now delete]
        apply Tracks.called up represents
        intro n source
        have kept : ∀ other, ¬e.Saves n.text other := by simp [saves, put]
        have removed : e.Deletes n.text ↔ n.text = Text.trim name := by simp [deletes, delete]
        rw [Store.Catalog.lookup_delete, current, current_concat]
        simp [kept, removed, and_comm]
      · rw [program_other o.now put delete]
        apply tracks.sameStore (.refl s)
        intro name
        simp [saves, deletes, put, delete]
  · have elsewhere : ∀ name, Route.ofPath path ≠ .program name := fun name route =>
      concerned ⟨name, route⟩
    have same : s.SameStore (s.receiveAt o path r).1 := by
      simp only [Server.receiveAt]
      repeat' split
      · exact s.sameStore_follow o r elsewhere
      · exact .refl s
      · exact s.sameStore_follow o r elsewhere
    apply tracks.sameStore same
    intro name
    simp [saves_iff arrives, deletes_iff arrives, elsewhere]

theorem Tracks.purge (tracks : s.Tracks events) (silent : e.arrival? = none) (now : Int) :
    (s.purge now).1.Tracks (events ++ [e]) := by
  obtain ⟨up, store, c, kept, represents, current⟩ := tracks
  have server : ∃ now' before, (s.purge now).1 = s.called store (.purge now' before) := by
    refine ⟨Int.fdiv now Duration.second,
      Int.fdiv (now + s.settings.storage.retention.opposite) Duration.second, ?_⟩
    simp only [Server.purge, kept, Server.called, Store.reply, moment_of_up up]
    generalize store.purge _ _ = result
    cases result with
    | error f => simp [← kept]
    | ok purged => rfl
  obtain ⟨now', before, server⟩ := server
  rw [server]
  apply Tracks.called up represents
  intro n source
  rw [current_concat_of_idle (idle_of_silent silent).1 (idle_of_silent silent).2]
  exact current n source

theorem Tracks.meet (tracks : s.Tracks events) (e : Event) : (s.meet e).Tracks (events ++ [e]) := by
  cases e with
  | handled o path r =>
    have received := tracks.receiveAt (e := .handled o path r) rfl o
    have same := sameStore_settle o (s.receiveAt o path r)
    obtain ⟨up, store, c, kept, held⟩ := received
    exact ⟨same.canceled.trans up, store, c, same.store.trans kept, held⟩
  | received o path r => exact tracks.receiveAt rfl o
  | resumed p o =>
    apply tracks.sameStore (s.sameStore_resume p o.waits o.elapsed)
    intro name
    exact idle_of_silent rfl
  | purged now => exact tracks.purge rfl now

theorem Tracks.meetAll (tracks : s.Tracks events) (more : List Event) :
    (s.meetAll more).Tracks (events ++ more) := by
  induction more generalizing s events with
  | nil =>
    rw [List.append_nil]
    exact tracks
  | cons e more ih =>
    have later := ih (tracks.meet e)
    rw [List.append_assoc] at later
    exact later

end Tracks

/-! ## What is answered -/

section Answers

variable {s : Server} {store : Store} {c : Store.Catalog} {r : Request} (up : s.canceled = false)
  (kept : s.store = some store) (represents : store.Represents c) (get : r.method = utf8 "GET")
  (o : Occasion)

theorem list_of_represents (represents : store.Represents c) (now : Int) :
    store.list ⟨now, false⟩ = .ok c.names := by
  have listed := (represents.list now).1
  simp only [Store.reply, Store.Catalog.reply, Option.some.injEq, Store.Answer.listed.injEq] at listed
  exact listed

include up kept represents get in
theorem answerAt_programs : s.answerAt o (utf8 "/programs") r = (s, .names c.names) := by
  have route : Route.ofPath (utf8 "/programs") = .programs := by decide
  simp only [answerAt, Server.receiveAt, route, Route.method?, get, beq_self_eq_true, if_true, follow,
    kept, moment_of_up up, list_of_represents represents]
  rfl

include get in
theorem answerAt_of_run {t : Text} (runs : utf8 "/run" <:+ t) :
    s.answerAt o (utf8 "/programs/" ++ t) r = (s, .methodNotAllowed) := by
  obtain ⟨name, route⟩ := Route.ofProgram_of_run runs
  have post : (utf8 "GET" == utf8 "POST") = false := by decide
  simp only [answerAt, Server.receiveAt, Route.ofPath_programs, route, Route.method?, get, post]
  rfl

include up kept get in
/-- A path to a program is answered by what the store loads. -/
theorem answerAt_of_plain {t : Text} (plain : ¬utf8 "/run" <:+ t) :
    s.answerAt o (utf8 "/programs/" ++ t) r =
      (s, match store.load ⟨o.now, false⟩ t with
        | .ok row => .program row
        | .error f => .storeFailure f) := by
  simp only [answerAt, Server.receiveAt, Route.ofPath_programs, Route.ofProgram_of_plain plain,
    Route.method?, follow, kept, program, get, beq_self_eq_true, if_true, moment_of_up up]
  cases store.load ⟨o.now, false⟩ t <;> rfl

include up kept represents get in
theorem answerAt_of_lookup {n : Store.Name} {source : Text} (plain : ¬utf8 "/run" <:+ n.text)
    (found : c.lookup n = some source) :
    ∃ row, s.answerAt o (utf8 "/programs/" ++ n.text) r = (s, .program row) ∧ row.name = n.text ∧
      row.source = source := by
  obtain ⟨row, member, named, live, holds⟩ := (represents.lookup n source).mp found
  have loaded : store.load ⟨o.now, false⟩ n.text = .ok row := by
    rw [Store.load, represents.obstacle?, n.trimmed,
      represents.sound.live?_eq_some_iff.mpr ⟨member, named, live⟩]
  refine ⟨row, ?_, named, holds⟩
  rw [answerAt_of_plain up kept get o plain, loaded]

include up kept represents get in
theorem answerAt_of_missing {t : Text} (plain : ¬utf8 "/run" <:+ t) (missing : Text.trim t ∉ c.names) :
    s.answerAt o (utf8 "/programs/" ++ t) r
      = (s, .storeFailure (.during (.load (Text.trim t)) .notFound)) := by
  have absent : store.live? (Text.trim t) = none := by
    cases live : store.live? (Text.trim t) with
    | none => rfl
    | some row =>
      obtain ⟨member, named, undeleted⟩ := represents.sound.live?_eq_some_iff.mp live
      have listed : Text.trim t ∈ c.names := by
        rw [Store.Catalog.names, Finset.mem_sort, Finset.mem_image, ← represents.mem_liveNames]
        exact List.mem_map.mpr ⟨row, List.mem_filter.mpr ⟨member, by simp [undeleted]⟩, named⟩
      exact absurd listed missing
  have refused : store.load ⟨o.now, false⟩ t = .error (.during (.load (Text.trim t)) .notFound) := by
    simp only [Store.load, represents.obstacle?, absent]
  rw [answerAt_of_plain up kept get o plain, refused]

end Answers

theorem mem_names_iff {c : Store.Catalog} {events : List Event}
    (current : ∀ (n : Store.Name) source, c.lookup n = some source ↔ Current events n.text source)
    (t : Text) : t ∈ c.names ↔ ∃ source, Current events t source := by
  rw [Store.Catalog.names, Finset.mem_sort, Finset.mem_image]
  simp only [Finmap.mem_keys, Finmap.mem_iff, current]
  constructor
  · rintro ⟨n, known, rfl⟩
    exact known
  · rintro ⟨source, known⟩
    exact ⟨⟨t, known.trimmed, known.1⟩, ⟨source, known⟩, rfl⟩

open Text.Json in
/-- Whatever requests a server with an empty store gets, the programs that are listed are those that
have a current source. A client reads their names as they are if they are of characters only, and
otherwise with replacements. A program that is listed is answered with its name and its current source,
unless its name ends in `/run`: nothing can be fetched under such a path. Nor is anything found under a
name that is not in the store, such as one with a replacement. -/
theorem listed_programs_are_fetched_unless_run (settings : Settings) (session : Session) (log : Logger)
    (events : List Event) (o : Occasion) (r : Request) (get : r.method = utf8 "GET") :
    let s := (start settings session (some Store.empty) log).meetAll events
    ∃ names, s.answerAt o (utf8 "/programs") r = (s, .names names) ∧
      strings? (Response.names names).body = some (names.map legible) ∧
      (∀ n ∈ names, (∀ b, Glyph.stray b ∉ Glyph.read n) → legible n = n) ∧
      (∀ n, n ∈ names ↔ ∃ source, Current events n source) ∧
      (∀ n ∈ names, ¬utf8 "/run" <:+ n →
        ∃ row, s.answerAt o (utf8 "/programs/" ++ n) r = (s, .program row) ∧
          (Response.program row).status = 200 ∧ row.name = n ∧
          (∀ source, Current events n source ↔ row.source = source) ∧
          field? (utf8 "name") (Response.program row).body = some (legible n) ∧
          field? (utf8 "source") (Response.program row).body = some (legible row.source)) ∧
      (∀ n, utf8 "/run" <:+ n →
        s.answerAt o (utf8 "/programs/" ++ n) r = (s, .methodNotAllowed)) ∧
      ∀ t, ¬utf8 "/run" <:+ t → Text.trim t ∉ names →
        ∃ response, s.answerAt o (utf8 "/programs/" ++ t) r = (s, response) ∧
          response.status = 404 := by
  intro s
  have tracks : s.Tracks events := (tracks_start settings session log).meetAll events
  obtain ⟨up, store, c, kept, represents, current⟩ := tracks
  have listed := mem_names_iff current
  refine ⟨c.names, answerAt_programs up kept represents get o, Response.strings?_names _,
    fun n _ characters => legible_eq_self characters, listed, ?_,
    fun n runs => answerAt_of_run get o runs, ?_⟩
  · intro n member plain
    obtain ⟨source, known⟩ := (listed n).mp member
    let name : Store.Name := ⟨n, known.trimmed, known.1⟩
    have found : c.lookup name = some source := (current name source).mpr known
    obtain ⟨row, answered, named, holds⟩ := answerAt_of_lookup up kept represents get o plain found
    refine ⟨row, answered, rfl, named, ?_, ?_, Response.field?_source row⟩
    · intro other
      rw [← current name other, found, Option.some.injEq, holds]
    · rw [Response.field?_name, named]
  · intro t plain missing
    exact ⟨_, answerAt_of_missing up kept represents get o plain missing, rfl⟩

/-- A name with blanks around it is fetched without them. -/
theorem listed_programs_are_fetched_unless_run_trimmed :
    let put : Request := ⟨utf8 "PUT", [], utf8 "PU"⟩
    let calm := Occasion.calm 0
    let events := [Event.handled calm (utf8 "/programs/ a ") put]
    let s := (start .standard (.fresh .standard .silent) (some Store.empty) .silent).meetAll events
    ∃ row, s.answerAt calm (utf8 "/programs/a") ⟨utf8 "GET", [], []⟩ = (s, .program row) ∧
      row.name = utf8 "a" ∧ row.source = utf8 "PU" := by
  intro put calm events s
  have current : Current events (utf8 "a") (utf8 "PU") :=
    ⟨by decide, [], _, [], rfl, ⟨put, ⟨utf8 " a ", rfl, by decide, rfl, by decide⟩, rfl⟩, by simp⟩
  obtain ⟨names, _, _, _, listed, fetched, _⟩ := listed_programs_are_fetched_unless_run .standard
    (.fresh .standard .silent) .silent events calm ⟨utf8 "GET", [], []⟩ rfl
  obtain ⟨row, answered, _, named, sources, _⟩ :=
    fetched (utf8 "a") ((listed _).mpr ⟨_, current⟩) (by decide)
  exact ⟨row, answered, named, (sources _).mp current⟩

/-- A blank behind `/run` brings a program into the store that is listed and cannot be fetched. -/
theorem listed_run_is_not_fetched :
    let calm := Occasion.calm 0
    let s := start .standard (.fresh .standard .silent) (some Store.empty) .silent
    let (saved, _) := s.answer calm ⟨utf8 "PUT", utf8 "/programs/x/run%20", utf8 "FD 1"⟩
    (saved.answer calm (.get "/programs")).2 = .names [utf8 "x/run"] ∧
      (saved.answer calm (.get "/programs/x/run")).2 = .methodNotAllowed := by
  intro calm s
  exact ⟨rfl, rfl⟩

end Server

end TurtleLogo
