import TurtleLogo.Session
import TurtleLogo.Turtle.Drawing
import TurtleLogo.Server.Address
import TurtleLogo.Server.Cache
import TurtleLogo.Server.Response
import TurtleLogo.Server.Route
import TurtleLogo.Server.Target

/-!
# The server

The server answers requests on one session, renders programs on turtles of their own, and keeps
programs in a store, if it has one. A request that changes the session pauses at the moment its
status is announced; other requests may be handled before it is resumed.
-/

set_option autoImplicit false

namespace TurtleLogo

structure Server where
  settings : Settings
  session : Session
  store : Option Store
  cache : Cache
  canceled : Bool
  log : Logger

namespace Server

def start (settings : Settings) (session : Session) (store : Option Store) (log : Logger) :
    Server where
  settings := settings
  session := session
  store := store
  cache := Cache.empty settings.serving.cacheEntries.toNat
  canceled := false
  log := log.part (utf8 "server")

/-- What a request meets with: the time of day, how the run it may start is paced and how long that
takes, and by which of its waits the time of a render is over. -/
structure Occasion where
  now : Int
  waits : Waits
  elapsed : Text
  late : Nat → Bool

structure Reply where
  response : Response
  log : Text
  waits : Nat
  deriving DecidableEq, Repr

def Reply.plain (r : Response) : Reply :=
  ⟨r, [], 0⟩

inductive Pending where
  | run (t : Task)
  | clear
  deriving DecidableEq, Repr

inductive Stage where
  | answered (r : Reply)
  | paused (p : Pending)
  deriving DecidableEq, Repr

def Stage.plain (r : Response) : Stage :=
  .answered (Reply.plain r)

/-- The waits of runs on a server: once it is shut down, a wait that does not fail by itself is
called off. -/
def waits (s : Server) (own : Waits) : Waits := fun k =>
  match own k with
  | some reason => some reason
  | none => if s.canceled then some .canceled else none

def moment (s : Server) (now : Int) : Store.Moment :=
  ⟨now, s.canceled⟩

def runFailureEntry (s : Server) (e : RunError) : Text :=
  match e with
  | .interrupted _ (.failed _) => s.log.error (utf8 "run: " ++ e.message)
  | _ => []

def storeFailure (s : Server) (f : Store.Failure) : Reply :=
  let entry :=
    match f with
    | .emptyName | .during _ .notFound => []
    | .during .. => s.log.error f.message
  ⟨Response.storeFailure f, entry, 0⟩

def startTask (s : Server) (t : Task) : Server × Stage :=
  match s.session.begin t with
  | .error refusal => (s, .plain (.failure 409 refusal.message))
  | .ok session => ({ s with session := session }, .paused (.run t))

/-- The waits of a render: it is called off with the server, and broken off once its time is over. It
has no time at all if the limit is not positive. -/
def renderWaits (s : Server) (late : Nat → Bool) : Waits := fun k =>
  if s.canceled then some .canceled
  else if s.settings.serving.renderTimeout ≤ 0 ∨ late k then some .timedOut
  else none

def drawn (s : Server) (waits : Waits) (source : Text) : Run × Turtle :=
  let run := (Machine.fresh s.settings.running.maxDepth).run source waits
  (run, (Turtle.home s.settings.turtleOptions).followAll run.instructions)

/-- Renders a program; drawings are kept in the cache under the fingerprint of their program. -/
def render (s : Server) (waits : Waits) (source : Text) : Server × Reply :=
  let key := Fingerprint.of source
  match s.cache.look key with
  | some (svg, cache) =>
    ({ s with cache := cache }, .plain { Response.drawing svg with cacheNote := utf8 "hit" })
  | none =>
    let (run, turtle) := s.drawn waits source
    match run.error with
    | some e => (s, ⟨Response.runFailure e, s.runFailureEntry e, 0⟩)
    | none =>
      ({ s with cache := s.cache.put key turtle.svg },
        .plain { Response.drawing turtle.svg with cacheNote := utf8 "miss" })

def program (s : Server) (store : Store) (now : Int) (name : Text) (r : Request) :
    Server × Reply :=
  let m := s.moment now
  if r.method == utf8 "GET" then
    match store.load m name with
    | .error f => (s, s.storeFailure f)
    | .ok row => (s, .plain (.program row))
  else if r.method == utf8 "PUT" then
    match store.save m name r.body with
    | .error f => (s, s.storeFailure f)
    | .ok store =>
      ({ s with store := some store },
        .plain (.success (utf8 "Saved " ++ Text.quoted name ++ utf8 "!") 0))
  else if r.method == utf8 "DELETE" then
    match store.delete m name with
    | .error f => (s, s.storeFailure f)
    | .ok store => ({ s with store := some store }, .plain .noContent)
  else (s, .plain .methodNotAllowed)

/-- Handles a request whose method fits its route, up to its answer or its pause. -/
def follow (s : Server) (o : Occasion) (r : Request) : Route → Server × Stage
  | .run => s.startTask (.program r.body)
  | .clear => ({ s with session := s.session.clear }, .paused .clear)
  | .canvas =>
    (s, .plain { Response.drawing s.session.turtle.svg with cacheControl := utf8 "no-store" })
  | .render =>
    let (s, reply) := s.render (s.renderWaits o.late) r.body
    (s, .answered reply)
  | .samples => (s, .plain .samples)
  | .runSample name =>
    match Sample.find? name with
    | none => (s, .plain (.page 404 (utf8 "unknown sample " ++ Text.quoted name)))
    | some sample => s.startTask (.sample sample)
  | .programs =>
    match s.store with
    | none => (s, .plain .storeDisabled)
    | some store =>
      match store.list (s.moment o.now) with
      | .error f => (s, .answered (s.storeFailure f))
      | .ok names => (s, .plain (.names names))
  | .program name =>
    match s.store with
    | none => (s, .plain .storeDisabled)
    | some store =>
      let (s, reply) := s.program store o.now name r
      (s, .answered reply)
  | .runProgram name =>
    match s.store with
    | none => (s, .plain .storeDisabled)
    | some store =>
      match store.load (s.moment o.now) name with
      | .error f => (s, .answered (s.storeFailure f))
      | .ok row => s.startTask (.program row.source)
  | .unknown => (s, .plain .notFound)

def receiveAt (s : Server) (o : Occasion) (path : Text) (r : Request) : Server × Stage :=
  let route := Route.ofPath path
  match route.method? with
  | some method =>
    if r.method == method then s.follow o r route else (s, .plain .methodNotAllowed)
  | none => s.follow o r route

/-- Handles a request up to its answer or its pause. A request without a method means `GET`. -/
def receive (s : Server) (o : Occasion) (r : Request) : Server × Stage :=
  let method := if r.method.isEmpty then utf8 "GET" else r.method
  s.receiveAt o (Target.path r.target) { r with method := method }

def resume (s : Server) (p : Pending) (own : Waits) (elapsed : Text) : Server × Reply :=
  match p with
  | .clear => (s, .plain (.success Session.clearedStatus 0))
  | .run t =>
    let opening := s.session.opening t
    let (session, report) := s.session.execute t (s.waits own)
    let entries := opening ++ (session.closing t elapsed report).flatten
    let s := { s with session := session.release }
    match report.error with
    | some e =>
      (s, ⟨Response.runFailure e, entries ++ s.runFailureEntry e, report.waits⟩)
    | none => (s, ⟨.success t.finished report.steps, entries, report.waits⟩)

def handle (s : Server) (o : Occasion) (r : Request) : Server × Reply :=
  match s.receive o r with
  | (s, .answered reply) => (s, reply)
  | (s, .paused p) => s.resume p o.waits o.elapsed

/-- Removes the programs that were deleted longer ago than they are retained; `now` is in
nanoseconds. -/
def purge (s : Server) (now : Int) : Server × Text :=
  match s.store with
  | none => (s, [])
  | some store =>
    let before := Int.fdiv (now + s.settings.storage.retention.opposite) Duration.second
    match store.purge (s.moment (Int.fdiv now Duration.second)) before with
    | .error f => (s, s.log.error (utf8 "purge: " ++ f.message))
    | .ok (n, store) =>
      let entry :=
        if n = 0 then []
        else s.log.info (utf8 "purged " ++ Text.ofNat n ++ utf8 " deleted programs")
      ({ s with store := some store }, entry)

/-- Schedules the purges of a server with a store, as the job with the given identifier. The result
is what is logged, or why there is no such job. -/
def schedulePurges (s : Server) (id : Text) : Except Text Text :=
  if s.store.isNone then .ok []
  else if s.settings.storage.purgeInterval = 0 then
    .error (utf8 "server: purge job: gocron: DurationJob: time interval is 0")
  else
    .ok (s.log.debug (utf8 "purge job " ++ id ++ utf8 " every "
      ++ s.settings.storage.purgeInterval.text))

def listening (s : Server) (address : Text) : Text :=
  s.log.info (utf8 "listening on " ++ address)

def listenFailure (address reason : Text) : Text :=
  utf8 "server: listen " ++ address ++ utf8 ": " ++ reason

def addressFailure? (address : Text) : Option Text :=
  (Address.failure? address).map (listenFailure address)

def shutdown (s : Server) : Server :=
  { s with canceled := true }

end Server

end TurtleLogo
