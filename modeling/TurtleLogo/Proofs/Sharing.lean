import TurtleLogo.Proofs.Termination
import TurtleLogo.Session
import TurtleLogo.Turtle.Drawing

/-!
# Clients that share a session

Any number of clients use one session at the same time. What a client asks for is carried out in
small steps, and between any two of them other clients may take theirs. Runs, samples and forgetting
need hold of the session, which one client at a time can have; clearing the canvas and looking at it
do not. The order in which clients took hold is an order in which their requests could have been
served one by one: the machine, and what every one of them was told, come out the same.
-/

set_option autoImplicit false

namespace TurtleLogo

namespace Session

structure Course where
  waits : Waits
  elapsed : Text

inductive Call where
  | run (source : Text) (course : Course)
  | runSample (name : Text) (course : Course)
  | forget
  | clear
  | drawing

inductive Duty where
  | task (t : Task) (course : Course)
  | forget

inductive Account where
  | ran (report : Report) (instructions : List Instruction)
  | forgot

inductive Answer where
  | finished (account : Account)
  | refused (refusal : Refusal)
  | cleared
  | drawing (svg : Text)

def Answer.account? : Answer → Option Account
  | .finished account => some account
  | _ => none

def Call.duty? : Call → Option Duty
  | .run source course => some (.task (.program source) course)
  | .runSample name course => (sampleTask name).toOption.map (.task · course)
  | .forget => some .forget
  | .clear => none
  | .drawing => none

/-! ## One by one -/

def perform (s : Session) : Duty → Except Refusal (Session × Account)
  | .task t course =>
    (s.run t course.waits).map fun (after, report) =>
      (after, .ran report (s.machine.run t.source course.waits).instructions)
  | .forget => s.forget.map (·, .forgot)

def serve {Client : Type} (s : Session) (duties : List (Client × Duty)) :
    Except Refusal (Session × List (Client × Account)) :=
  duties.foldlM (fun (s, accounts) (client, duty) =>
    (s.perform duty).map fun (after, account) => (after, accounts ++ [(client, account)])) (s, [])

/-! ## Step by step -/

/-- How far a client has come with a task. `drawn` are the instructions given so far, the latest
first, and `made` is the number of waits made. -/
inductive Phase where
  | taken
  | prepared
  | announced
  | opened
  | stepping (drawn : List Instruction) (made : Nat)
  | waiting (drawn : List Instruction) (made : Nat)
  | ended (drawn : List Instruction) (made : Nat) (error : Option RunError)
  | timed (drawn : List Instruction) (made : Nat) (error : Option RunError)
  | counted (drawn : List Instruction) (report : Report)
  | logged (drawn : List Instruction) (report : Report)
  | reported (drawn : List Instruction) (report : Report)

inductive Place where
  | idle
  | clearing
  | forgetting
  | forgotten
  | running (t : Task) (course : Course) (phase : Phase)

def Place.holds : Place → Bool
  | .idle => false
  | .clearing => false
  | .forgetting => true
  | .forgotten => true
  | .running _ _ _ => true

def Duty.start : Duty → Place
  | .task t course => .running t course .taken
  | .forget => .forgetting

structure Shared where
  session : Session
  statuses : List Text
  entries : Text

namespace Shared

def announce (s : Shared) (status : Text) : Shared :=
  { s with statuses := s.statuses ++ [status] }

def record (s : Shared) (entry : Text) : Shared :=
  { s with entries := s.entries ++ entry }

def setMachine (s : Shared) (m : Machine) : Shared :=
  { s with session := { s.session with machine := m } }

def draw (s : Shared) (instructions : List Instruction) : Shared :=
  { s with session := { s.session with turtle := s.session.turtle.followAll instructions } }

end Shared

inductive Next where
  | stays (place : Place)
  | returns (answer : Answer)

def Phase.step (t : Task) (course : Course) (s : Shared) (phase : Phase) : Shared × Next :=
  let on (phase : Phase) : Next := .stays (.running t course phase)
  match phase with
  | .taken => ({ s with session := s.session.prepare t }, on .prepared)
  | .prepared => (s.announce t.starting, on .announced)
  | .announced => (s.record (s.session.opening t), on .opened)
  | .opened =>
    match s.session.machine.load (Token.scan t.source) with
    | .error d => (s, on (.ended [] 0 (some (.diagnosed d))))
    | .ok m => (s.setMachine m, on (.stepping [] 0))
  | .stepping drawn made =>
    match s.session.machine.step with
    | (.done, m) => (s.setMachine m, on (.ended drawn made none))
    | (.failed d, m) => (s.setMachine m, on (.ended drawn made (some (.diagnosed d))))
    | (.moved i, m) =>
      ((s.setMachine m).draw i.toList, on (.waiting (i.toList ++ drawn) made))
  | .waiting drawn made =>
    let m := s.session.machine
    match course.waits (made + 1) with
    | none => (s, on (.stepping drawn (made + 1)))
    | some reason =>
      (s.setMachine { m with frames := [] },
        on (.ended drawn (made + 1) (some (.interrupted m.steps reason))))
  | .ended drawn made error =>
    (s.record (s.session.log.completed t.name course.elapsed), on (.timed drawn made error))
  | .timed drawn made error =>
    (s, on (.counted drawn ⟨s.session.machine.steps, made, error⟩))
  | .counted drawn report =>
    let entry := s.session.log.ran t.name report.steps s.session.turtle.segments.size
      (report.error.map (·.message))
    (s.record entry, on (.logged drawn report))
  | .logged drawn report => (s.announce (report.status t), on (.reported drawn report))
  | .reported drawn report =>
    ({ s with session := s.session.release }, .returns (.finished (.ran report drawn.reverse)))

def Place.step (s : Shared) : Place → Shared × Next
  | .idle => (s, .stays .idle)
  | .clearing => (s.announce clearedStatus, .returns .cleared)
  | .forgetting => (s.setMachine s.session.machine.reset, .stays .forgotten)
  | .forgotten => ({ s with session := s.session.release }, .returns (.finished .forgot))
  | .running t course phase => phase.step t course s

inductive Event (Client : Type) where
  | call (c : Client) (what : Call)
  | step (c : Client)

/-- A session with its clients. `accepted` are the duties for which clients took hold of the session,
in that order, and `answers` all that clients were told. -/
structure World (Client : Type) where
  shared : Shared
  place : Client → Place
  accepted : List (Client × Duty)
  answers : List (Client × Answer)

namespace World

variable {Client : Type} [DecidableEq Client]

def start (s : Session) : World Client :=
  ⟨⟨s, [], []⟩, fun _ => .idle, [], []⟩

abbrev session (w : World Client) : Session :=
  w.shared.session

def tell (w : World Client) (c : Client) (answer : Answer) : World Client :=
  { w with answers := w.answers ++ [(c, answer)] }

def take (w : World Client) (c : Client) (duty : Duty) : World Client :=
  match w.session.take with
  | .error refusal => w.tell c (.refused refusal)
  | .ok session =>
    { w with
      shared := { w.shared with session := session }
      place := Function.update w.place c duty.start
      accepted := w.accepted ++ [(c, duty)] }

def enter (w : World Client) (c : Client) : Call → World Client
  | .run source course => w.take c (.task (.program source) course)
  | .runSample name course =>
    match sampleTask name with
    | .error refusal => w.tell c (.refused refusal)
    | .ok t => w.take c (.task t course)
  | .forget => w.take c .forget
  | .clear =>
    { w with
      shared := { w.shared with session := w.session.clear }
      place := Function.update w.place c .clearing }
  | .drawing => w.tell c (.drawing w.session.turtle.svg)

def advance (w : World Client) (c : Client) : World Client :=
  match (w.place c).step w.shared with
  | (shared, .stays place) =>
    { w with shared := shared, place := Function.update w.place c place }
  | (shared, .returns answer) =>
    { w with
      shared := shared
      place := Function.update w.place c .idle
      answers := w.answers ++ [(c, answer)] }

def act (w : World Client) : Event Client → World Client
  | .call c what =>
    match w.place c with
    | .idle => w.enter c what
    | _ => w
  | .step c => w.advance c

def play (w : World Client) (events : List (Event Client)) : World Client :=
  events.foldl act w

def accounts (w : World Client) : List (Client × Account) :=
  w.answers.filterMap fun (c, answer) => answer.account?.map (c, ·)

end World

/-! ## Serving one by one -/

theorem take_of_running {s : Session} (busy : s.running = true) : s.take = .error .busy := by
  rw [take, busy]
  rfl

theorem take_of_free {s : Session} (free : s.running = false) :
    s.take = .ok { s with running := true } := by
  rw [take, free]
  rfl

/-- `Completes before duty account m`: carried out with nothing in between, the duty is accounted for
like this, and the session is free again with the machine `m`. -/
def Completes (before : Session) (duty : Duty) (account : Account) (m : Machine) : Prop :=
  ∃ after, before.perform duty = .ok (after, account) ∧ after.machine = m ∧ after.running = false

theorem machine_prepare (s : Session) (t : Task) : (s.prepare t).machine = s.machine := by
  unfold prepare
  split <;> rfl

theorem running_prepare (s : Session) (t : Task) : (s.prepare t).running = s.running := by
  unfold prepare
  split <;> rfl

theorem completes_task {before : Session} (free : before.running = false) (t : Task)
    (course : Course) {final : Run} (ran : before.machine.run t.source course.waits = final) :
    Completes before (.task t course)
      (.ran ⟨final.machine.steps, final.waits, final.error⟩ final.instructions) final.machine := by
  let begun := { before with running := true }.prepare t
  have machine : begun.machine.run t.source course.waits = final := by
    rw [machine_prepare]
    exact ran
  refine ⟨(begun.execute t course.waits).1.release, ?_, ?_, rfl⟩
  · rw [perform, Session.run, begin, take_of_free free, ran]
    simp only [Except.map, execute]
    rw [machine]
  · rw [release, execute, machine]

theorem completes_forget {before : Session} (free : before.running = false) :
    Completes before .forget .forgot before.machine.reset := by
  refine ⟨{ before with machine := before.machine.reset, running := false }, ?_, rfl, rfl⟩
  rw [perform, forget, take_of_free free]
  rfl

theorem serve_snoc {Client : Type} {s before after : Session} {past : List (Client × Duty)}
    {accounts : List (Client × Account)} {duty : Duty} {account : Account} (c : Client)
    (served : s.serve past = .ok (before, accounts))
    (performed : before.perform duty = .ok (after, account)) :
    s.serve (past ++ [(c, duty)]) = .ok (after, accounts ++ [(c, account)]) := by
  rw [serve] at served
  rw [serve, List.foldlM_append, served]
  simp [bind, Except.bind, performed, Except.map, pure, Except.pure]

/-! ## What the holder has come to -/

def Nears (base m : Machine) (t : Task) (course : Course) (drawn : List Instruction) (made : Nat) :
    Prop :=
  ∃ n, ∃ within : m.Within n,
    base.run t.source course.waits = Machine.finish course.waits m within drawn made

/-- A client that took hold of a session with the machine `base` for a task is on the way to what the
run of that task on `base` gives; the machine is `m` by now. -/
def Phase.OnCourse (base m : Machine) (t : Task) (course : Course) : Phase → Prop
  | .taken | .prepared | .announced | .opened => m = base
  | .stepping drawn made => Nears base m t course drawn made
  | .waiting drawn made =>
    ∃ last i earlier, last.step = (.moved i, m) ∧ drawn = i.toList ++ earlier ∧
      Nears base last t course earlier made
  | .ended drawn made error | .timed drawn made error =>
    base.run t.source course.waits = ⟨m, drawn.reverse, made, error⟩
  | .counted drawn report | .logged drawn report | .reported drawn report =>
    base.run t.source course.waits = ⟨m, drawn.reverse, report.waits, report.error⟩ ∧
      report.steps = m.steps

def Place.OnDuty (base m : Machine) : Duty → Place → Prop
  | .task t course, .running t' course' phase =>
    t' = t ∧ course' = course ∧ phase.OnCourse base m t course
  | .forget, .forgetting => m = base
  | .forget, .forgotten => m = base.reset
  | _, _ => False

theorem Place.OnDuty.holds {base m : Machine} {duty : Duty} {place : Place}
    (onDuty : place.OnDuty base m duty) : place.holds = true := by
  cases place with
  | idle => cases duty <;> exact onDuty.elim
  | clearing => cases duty <;> exact onDuty.elim
  | forgetting => rfl
  | forgotten => rfl
  | running t course phase => rfl

theorem Duty.onDuty_start (duty : Duty) (m : Machine) : duty.start.OnDuty m m duty := by
  cases duty with
  | task t course => exact ⟨rfl, rfl, rfl⟩
  | forget => exact rfl

theorem onCourse_load (base : Machine) (t : Task) (course : Course) :
    match base.load (Token.scan t.source) with
    | .error d =>
      (Phase.ended [] 0 (some (.diagnosed d))).OnCourse base base t course
    | .ok m => (Phase.stepping [] 0).OnCourse base m t course := by
  cases load : base.load (Token.scan t.source) with
  | error d => exact Machine.runProgram_refused load course.waits
  | ok m => exact ⟨m.limit, Machine.load_within load, Machine.runProgram_loaded load course.waits⟩

theorem onCourse_step {base m : Machine} {t : Task} {course : Course} {drawn : List Instruction}
    {made : Nat} (near : Nears base m t course drawn made) :
    match m.step with
    | (.done, m') => (Phase.ended drawn made none).OnCourse base m' t course
    | (.failed d, m') =>
      (Phase.ended drawn made (some (.diagnosed d))).OnCourse base m' t course
    | (.moved i, m') => (Phase.waiting (i.toList ++ drawn) made).OnCourse base m' t course := by
  obtain ⟨n, within, run⟩ := near
  cases step : m.step with
  | mk progress m' =>
    cases progress with
    | done =>
      have ending : m.step = (.ending none, m') := step
      exact run.trans (Machine.finish_of_ending course.waits within drawn made ending)
    | failed d =>
      have ending : m.step = (.ending (some d), m') := step
      exact run.trans (Machine.finish_of_ending course.waits within drawn made ending)
    | moved i => exact ⟨m, i, drawn, step, rfl, n, within, run⟩

theorem onCourse_wait {base m : Machine} {t : Task} {course : Course} {drawn : List Instruction}
    {made : Nat} (waiting : (Phase.waiting drawn made).OnCourse base m t course) :
    match course.waits (made + 1) with
    | none => (Phase.stepping drawn (made + 1)).OnCourse base m t course
    | some reason =>
      (Phase.ended drawn (made + 1) (some (.interrupted m.steps reason))).OnCourse base
        { m with frames := [] } t course := by
  obtain ⟨last, i, earlier, step, rfl, n, within, run⟩ := waiting
  cases wait : course.waits (made + 1) with
  | none =>
    have moved := Machine.finish_of_moved course.waits within earlier made step wait
    exact ⟨n, Machine.step_within within step, run.trans moved⟩
  | some reason =>
    have broken := Machine.finish_of_interrupted course.waits within earlier made step wait
    exact run.trans broken

def Continues (before : Session) (duty : Duty) : Shared × Next → Prop
  | (s, .stays place) =>
    place.OnDuty before.machine s.session.machine duty ∧ s.session.running = true
  | (s, .returns answer) =>
    ∃ account, answer = .finished account ∧ s.session.running = false ∧
      Completes before duty account s.session.machine

theorem continues_phase {before : Session} (free : before.running = false) {t : Task}
    {course : Course} {s : Shared} (running : s.session.running = true) {phase : Phase}
    (onCourse : phase.OnCourse before.machine s.session.machine t course) :
    Continues before (.task t course) (phase.step t course s) := by
  cases phase with
  | taken =>
    refine ⟨⟨rfl, rfl, ?_⟩, ?_⟩
    · exact (machine_prepare s.session t).trans onCourse
    · exact (running_prepare s.session t).trans running
  | prepared => exact ⟨⟨rfl, rfl, onCourse⟩, running⟩
  | announced => exact ⟨⟨rfl, rfl, onCourse⟩, running⟩
  | opened =>
    have same : s.session.machine = before.machine := onCourse
    have loaded := onCourse_load before.machine t course
    simp only [Phase.step, same]
    split at loaded
    · exact ⟨⟨rfl, rfl, by rwa [same]⟩, running⟩
    · exact ⟨⟨rfl, rfl, loaded⟩, running⟩
  | stepping drawn made =>
    have stepped := onCourse_step onCourse
    simp only [Phase.step]
    split at stepped
    · exact ⟨⟨rfl, rfl, stepped⟩, running⟩
    · exact ⟨⟨rfl, rfl, stepped⟩, running⟩
    · exact ⟨⟨rfl, rfl, stepped⟩, running⟩
  | waiting drawn made =>
    have waited := onCourse_wait onCourse
    simp only [Phase.step]
    split at waited
    · exact ⟨⟨rfl, rfl, waited⟩, running⟩
    · exact ⟨⟨rfl, rfl, waited⟩, running⟩
  | ended drawn made error => exact ⟨⟨rfl, rfl, onCourse⟩, running⟩
  | timed drawn made error =>
    -- The steps are read here, before the session is let go and another run resets them.
    exact ⟨⟨rfl, rfl, onCourse, rfl⟩, running⟩
  | counted drawn report => exact ⟨⟨rfl, rfl, onCourse⟩, running⟩
  | logged drawn report => exact ⟨⟨rfl, rfl, onCourse⟩, running⟩
  | reported drawn report =>
    obtain ⟨ran, counted⟩ := onCourse
    have completes := completes_task free t course ran
    rw [← counted] at completes
    exact ⟨_, rfl, rfl, completes⟩

theorem continues_step {before : Session} (free : before.running = false) {s : Shared}
    (running : s.session.running = true) {duty : Duty} {place : Place}
    (onDuty : place.OnDuty before.machine s.session.machine duty) :
    Continues before duty (place.step s) := by
  cases place with
  | idle => cases duty <;> exact onDuty.elim
  | clearing => cases duty <;> exact onDuty.elim
  | forgetting =>
    cases duty with
    | task t course => exact onDuty.elim
    | forget =>
      have same : s.session.machine = before.machine := onDuty
      exact ⟨congrArg Machine.reset same, running⟩
  | forgotten =>
    cases duty with
    | task t course => exact onDuty.elim
    | forget =>
      have completes := completes_forget free
      rw [← (show s.session.machine = before.machine.reset from onDuty)] at completes
      exact ⟨.forgot, rfl, rfl, completes⟩
  | running t' course' phase =>
    cases duty with
    | task t course =>
      obtain ⟨rfl, rfl, onCourse⟩ := onDuty
      exact continues_phase free running onCourse
    | forget => exact onDuty.elim

def Harmless (s : Session) : Shared × Next → Prop
  | (after, .stays place) => place.holds = false ∧ after.session = s
  | (after, .returns answer) => answer.account? = none ∧ after.session = s

theorem harmless_step {place : Place} (unheld : place.holds = false) (s : Shared) :
    Harmless s.session (place.step s) := by
  cases place with
  | idle => exact ⟨rfl, rfl⟩
  | clearing => exact ⟨rfl, rfl⟩
  | forgetting => cases unheld
  | forgotten => cases unheld
  | running t course phase => cases unheld

/-! ## The session and all its clients -/

section Consistency

variable {Client : Type}

/-- Nobody has hold of the session, and it is as if all duties so far had been done one by one; or
one client has, and it is as if the duties before its own had been done one by one and it were alone
since then. -/
inductive Consistent (s : Session) (w : World Client) : Prop
  | free (final : Session) (unheld : ∀ c, (w.place c).holds = false)
      (running : w.session.running = false) (final_free : final.running = false)
      (served : s.serve w.accepted = .ok (final, w.accounts))
      (machine : w.session.machine = final.machine)
  | held (c : Client) (duty : Duty) (past : List (Client × Duty)) (before : Session)
      (others : ∀ d, d ≠ c → (w.place d).holds = false)
      (running : w.session.running = true) (before_free : before.running = false)
      (accepted : w.accepted = past ++ [(c, duty)])
      (served : s.serve past = .ok (before, w.accounts))
      (onDuty : (w.place c).OnDuty before.machine w.session.machine duty)

theorem consistent_start {s : Session} (free : s.running = false) :
    Consistent s (World.start s : World Client) :=
  .free s (fun _ => rfl) free free rfl rfl

theorem Consistent.bystanders {s : Session} {w w' : World Client} (consistent : Consistent s w)
    (machine : w'.session.machine = w.session.machine)
    (running : w'.session.running = w.session.running) (accepted : w'.accepted = w.accepted)
    (accounts : w'.accounts = w.accounts)
    (places : ∀ c, w'.place c = w.place c ∨
      (w.place c).holds = false ∧ (w'.place c).holds = false) :
    Consistent s w' := by
  have unheld : ∀ c, (w.place c).holds = false → (w'.place c).holds = false := by
    intro c unheld
    rcases places c with same | ⟨_, unheld'⟩
    · rw [same]
      exact unheld
    · exact unheld'
  cases consistent with
  | free final unheldBefore runningBefore final_free served machineBefore =>
    refine .free final (fun c => unheld c (unheldBefore c)) ?_ final_free ?_ ?_
    · rw [running, runningBefore]
    · rw [accepted, accounts, served]
    · rw [machine, machineBefore]
  | held c duty past before others runningBefore before_free acceptedBefore served onDuty =>
    have same : w'.place c = w.place c := by
      rcases places c with same | ⟨unheldHere, _⟩
      · exact same
      · rw [onDuty.holds] at unheldHere
        cases unheldHere
    refine .held c duty past before (fun d other => unheld d (others d other)) ?_ before_free ?_ ?_ ?_
    · rw [running, runningBefore]
    · rw [accepted, acceptedBefore]
    · rw [accounts, served]
    · rw [machine, same]
      exact onDuty

theorem accounts_tell (w : World Client) (c : Client) {answer : Answer}
    (empty : answer.account? = none) : (w.tell c answer).accounts = w.accounts := by
  simp [World.tell, World.accounts, List.filterMap_append, empty]

theorem Consistent.tell {s : Session} {w : World Client} (consistent : Consistent s w) (c : Client)
    {answer : Answer} (empty : answer.account? = none) : Consistent s (w.tell c answer) :=
  consistent.bystanders rfl rfl rfl (accounts_tell w c empty) (fun _ => .inl rfl)

variable [DecidableEq Client]

theorem places_update {place : Client → Place} {c : Client} (unheld : (place c).holds = false)
    {there : Place} (unheldThere : there.holds = false) (d : Client) :
    Function.update place c there d = place d ∨
      (place d).holds = false ∧ (Function.update place c there d).holds = false := by
  by_cases same : d = c
  · subst same
    rw [Function.update_self]
    exact .inr ⟨unheld, unheldThere⟩
  · exact .inl (Function.update_of_ne same there place)

theorem others_update {place : Client → Place} {c : Client}
    (others : ∀ d, d ≠ c → (place d).holds = false) (there : Place) :
    ∀ d, d ≠ c → (Function.update place c there d).holds = false := by
  intro d other
  rw [Function.update_of_ne other]
  exact others d other

theorem World.take_of_running {w : World Client} (busy : w.session.running = true) (c : Client)
    (duty : Duty) : w.take c duty = w.tell c (.refused .busy) := by
  rw [World.take, Session.take_of_running busy]

theorem World.take_of_free {w : World Client} (free : w.session.running = false) (c : Client)
    (duty : Duty) :
    w.take c duty =
      { w with
        shared := { w.shared with session := { w.session with running := true } }
        place := Function.update w.place c duty.start
        accepted := w.accepted ++ [(c, duty)] } := by
  rw [World.take, Session.take_of_free free]

theorem Consistent.take {s : Session} {w : World Client} (consistent : Consistent s w) (c : Client)
    (duty : Duty) : Consistent s (w.take c duty) := by
  have refused : Consistent s (w.tell c (.refused .busy)) := consistent.tell c rfl
  cases consistent with
  | held _ _ _ _ _ running =>
    rw [World.take_of_running running]
    exact refused
  | free final unheld running final_free served machine =>
    rw [World.take_of_free running]
    refine .held c duty w.accepted final ?_ rfl final_free rfl served ?_
    · exact others_update (fun d _ => unheld d) duty.start
    · show Place.OnDuty final.machine w.session.machine duty
        (Function.update w.place c duty.start c)
      rw [Function.update_self, machine]
      exact duty.onDuty_start final.machine

theorem Consistent.enter {s : Session} {w : World Client} (consistent : Consistent s w)
    {c : Client} (idle : w.place c = .idle) (what : Call) : Consistent s (w.enter c what) := by
  cases what with
  | run source course => exact consistent.take c _
  | runSample name course =>
    rw [World.enter]
    split
    · exact consistent.tell c rfl
    · exact consistent.take c _
  | forget => exact consistent.take c _
  | clear =>
    have unheld : (w.place c).holds = false := by rw [idle]; rfl
    exact consistent.bystanders rfl rfl rfl rfl (places_update unheld rfl)
  | drawing => exact consistent.tell c rfl

theorem Consistent.advance {s : Session} {w : World Client} (consistent : Consistent s w)
    (c : Client) : Consistent s (w.advance c) := by
  -- A client without hold leaves the session alone; one with hold is the holder of the invariant.
  cases holding : (w.place c).holds with
  | false =>
    have harmless := harmless_step holding w.shared
    rw [World.advance]
    split
    · rename_i shared place step
      rw [step] at harmless
      obtain ⟨unheld, same⟩ := harmless
      exact consistent.bystanders (congrArg machine same) (congrArg Session.running same) rfl rfl
        (places_update holding unheld)
    · rename_i shared answer step
      rw [step] at harmless
      obtain ⟨empty, same⟩ := harmless
      exact consistent.bystanders (congrArg machine same) (congrArg Session.running same) rfl
        (accounts_tell w c empty) (places_update holding rfl)
  | true =>
    cases consistent with
    | free _ unheld =>
      rw [unheld c] at holding
      cases holding
    | held holder duty past before others running before_free accepted served onDuty =>
      have here : c = holder := by
        by_contra other
        rw [others c other] at holding
        cases holding
      subst here
      have continues := continues_step before_free running onDuty
      rw [World.advance]
      split
      · rename_i shared place step
        rw [step] at continues
        obtain ⟨onDuty', running'⟩ := continues
        refine .held c duty past before (others_update others place) running' before_free accepted
          served ?_
        show Place.OnDuty before.machine shared.session.machine duty
          (Function.update w.place c place c)
        rw [Function.update_self]
        exact onDuty'
      · rename_i shared answer step
        rw [step] at continues
        obtain ⟨account, rfl, running', after, performed, machine, after_free⟩ := continues
        refine .free after ?_ running' after_free ?_ machine.symm
        · intro d
          by_cases same : d = c
          · show (Function.update w.place c .idle d).holds = false
            rw [same, Function.update_self]
            rfl
          · exact others_update others .idle d same
        · have snoc := serve_snoc c served performed
          rw [← accepted] at snoc
          simpa [World.accounts, List.filterMap_append, Answer.account?] using snoc

theorem Consistent.act {s : Session} {w : World Client} (consistent : Consistent s w)
    (event : Event Client) : Consistent s (w.act event) := by
  cases event with
  | call c what =>
    rw [World.act]
    split
    · rename_i idle
      exact consistent.enter idle what
    · exact consistent
  | step c => exact consistent.advance c

theorem consistent_play {s : Session} {w : World Client} (consistent : Consistent s w)
    (events : List (Event Client)) : Consistent s (w.play events) := by
  induction events generalizing w with
  | nil => exact consistent
  | cons event rest ih => exact ih (consistent.act event)

theorem World.act_of_duty {w : World Client} {c : Client} {what : Call} {duty : Duty}
    (idle : w.place c = .idle) (needs : what.duty? = some duty) :
    w.act (.call c what) = w.take c duty := by
  rw [World.act, idle]
  cases what with
  | run source course =>
    cases needs
    rfl
  | runSample name course =>
    cases found : sampleTask name with
    | error refusal => simp [Call.duty?, found, Except.toOption] at needs
    | ok t =>
      simp only [Call.duty?, found, Except.toOption, Option.map_some, Option.some.injEq] at needs
      simp only [World.enter, found, needs]
  | forget =>
    cases needs
    rfl
  | clear => cases needs
  | drawing => cases needs

/-- However the steps of its clients interleave, a session serves them one by one: one client at a
time has hold of it; a call that needs hold and does not get it changes nothing; and the duties come
out as if they had been carried out one after another, in the order in which the clients took hold,
up to the one that is being carried out. -/
theorem shared_session_serves_one_by_one (s : Session) (free : s.running = false)
    (events : List (Event Client)) :
    let w := (World.start s).play events
    (∀ c d, (w.place c).holds = true → (w.place d).holds = true → c = d) ∧
    (w.session.running = true ↔ ∃ c, (w.place c).holds = true) ∧
    (∀ c what duty, w.place c = .idle → what.duty? = some duty →
      (w.session.running = true →
        w.act (.call c what) = { w with answers := w.answers ++ [(c, .refused .busy)] }) ∧
      (w.session.running = false →
        (w.act (.call c what)).accepted = w.accepted ++ [(c, duty)])) ∧
    (w.session.running = false →
      ∃ final, s.serve w.accepted = .ok (final, w.accounts) ∧
        w.session.machine = final.machine) ∧
    (∀ c, (w.place c).holds = true →
      ∃ past duty before, w.accepted = past ++ [(c, duty)] ∧
        s.serve past = .ok (before, w.accounts)) := by
  intro w
  have consistent : Consistent s w := consistent_play (consistent_start free) events
  have calls : ∀ c what duty, w.place c = .idle → what.duty? = some duty →
      (w.session.running = true →
        w.act (.call c what) = { w with answers := w.answers ++ [(c, .refused .busy)] }) ∧
      (w.session.running = false →
        (w.act (.call c what)).accepted = w.accepted ++ [(c, duty)]) := by
    intro c what duty idle needs
    rw [World.act_of_duty idle needs]
    refine ⟨?_, ?_⟩
    · intro busy
      rw [World.take_of_running busy]
      rfl
    · intro unused
      rw [World.take_of_free unused]
  cases consistent with
  | free final unheld running final_free served machine =>
    refine ⟨?_, ?_, calls, fun _ => ⟨final, served, machine⟩, ?_⟩
    · intro c d holds _
      rw [unheld c] at holds
      cases holds
    · simp [running, unheld]
    · intro c holds
      rw [unheld c] at holds
      cases holds
  | held c duty past before others running before_free accepted served onDuty =>
    have holder : ∀ d, (w.place d).holds = true → d = c := by
      intro d holds
      by_contra other
      rw [others d other] at holds
      cases holds
    refine ⟨?_, ?_, calls, ?_, ?_⟩
    · intro d e holdsD holdsE
      rw [holder d holdsD, holder e holdsE]
    · exact ⟨fun _ => ⟨c, onDuty.holds⟩, fun _ => running⟩
    · intro unused
      rw [running] at unused
      cases unused
    · intro d holds
      rw [holder d holds]
      exact ⟨past, duty, before, accepted, served⟩

end Consistency

/-- While one client runs a program that calls its own procedure, another clears the canvas and is
refused when it wants all forgotten; when it asks again, it is not. -/
def rivals : List (Event Bool) :=
  List.flatten [[.call true (.run (utf8 "DEF A PU END A") ⟨Waits.never, []⟩)],
    List.replicate 6 (.step true), [.call false .clear, .step false, .call false .forget],
    List.replicate 12 (.step true), [.call false .forget, .step false, .step false]]

theorem shared_session_serves_one_by_one_rivals :
    (fresh Settings.standard .silent).running = false ∧
      ((World.start (fresh Settings.standard .silent)).play rivals).answers.length = 4 ∧
      ((World.start (fresh Settings.standard .silent)).play rivals).accounts.length = 2 ∧
      ∃ final,
        (fresh Settings.standard .silent).serve
            ((World.start (fresh Settings.standard .silent)).play rivals).accepted =
          .ok (final, ((World.start (fresh Settings.standard .silent)).play rivals).accounts) := by
  have quiet :
      ((World.start (fresh Settings.standard .silent)).play rivals).session.running = false := by
    decide +kernel
  have serves := shared_session_serves_one_by_one (fresh Settings.standard .silent) rfl rivals
  obtain ⟨final, one_by_one, _⟩ := serves.2.2.2.1 quiet
  exact ⟨rfl, by decide +kernel, by decide +kernel, final, one_by_one⟩

end Session

end TurtleLogo
