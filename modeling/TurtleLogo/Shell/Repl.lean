import TurtleLogo.Shell.Chunk
import TurtleLogo.Shell.History
import TurtleLogo.Shell.Surroundings
import TurtleLogo.Text.Caseless

/-!
# Conversations

A conversation takes whole inputs one after another. A program runs on the session; a directive,
which starts with a colon, is about the conversation itself. Programs that succeed are written down,
so that all of them together can be saved as one program.
-/

set_option autoImplicit false

namespace TurtleLogo

namespace Shell

/-- The state of a conversation: the store and its path, if there is one, the path of the drawing,
the programs that succeeded, the inputs, the lines of the next one so far, and whether the
conversation is over. -/
structure Repl where
  session : Session
  store : Option (Text × Store)
  outPath : Text
  transcript : List Text
  history : History
  pending : Text
  ended : Bool

namespace Repl

inductive Directive where
  | quit
  | help
  | clear
  | forget
  | svg
  | save
  | load
  | list
  | unknown
  deriving DecidableEq, Repr

def Directive.ofName (name : Text) : Directive :=
  let spelled (word : String) := Text.spells name (utf8 word)
  if spelled ":quit" || spelled ":q" then .quit
  else if spelled ":help" then .help
  else if spelled ":clear" then .clear
  else if spelled ":forget" then .forget
  else if spelled ":svg" then .svg
  else if spelled ":save" then .save
  else if spelled ":load" then .load
  else if spelled ":list" then .list
  else .unknown

def banner : Text :=
  utf8 "nlogo: type :help for commands"

def helpText : Text :=
  utf8 "Type turtle commands, or:
  :quit          leave
  :clear         clear the canvas
  :forget        drop all variables and procedures
  :svg <path>    write the canvas to a file
  :save <name>   save everything typed so far
  :load <name>   run a saved program
  :list          list saved programs"

variable {m : Type → Type} [Surroundings m]

def run (r : Repl) (src : Text) : m Repl := do
  let announce (status : Text) : m Unit :=
    if isFailure status then printError status else pure ()
  match ← perform r.session (.program src) 0 announce with
  | .error _ => return r
  | .ok (session, report) =>
    let r := { r with session := session }
    if report.error.isSome then return r
    let r := { r with transcript := r.transcript ++ [src] }
    if !r.outPath.isEmpty then
      match ← writeDrawing r.session.turtle r.outPath with
      | .ok () => pure ()
      | .error e => printError e
    return r

def save (r : Repl) (path : Text) (store : Store) (name : Text) : m Repl := do
  match store.save (← moment) name (Text.join (utf8 "\n") r.transcript) with
  | .error f =>
    printError f.message
    return r
  | .ok store =>
    match ← keepStore path store with
    | .ok () => printLine (← painted .green (utf8 "Saved " ++ Text.quoted name ++ utf8 "!"))
    | .error fault => printError fault.message
    return { r with store := some (path, store) }

def load (r : Repl) (store : Store) (name : Text) : m Repl := do
  match store.load (← moment) name with
  | .error f =>
    printError f.message
    return r
  | .ok row => r.run row.source

def list (store : Store) : m Unit := do
  match store.list (← moment) with
  | .error f => printError f.message
  | .ok names =>
    for name in names do
      printLine name

def askStore (r : Repl) (request : Text → Store → m Repl) : m Repl :=
  match r.store with
  | none => do
    printError (utf8 "program store is unavailable")
    return r
  | some (path, store) => request path store

def direct (r : Repl) (src : Text) : m Repl := do
  let fields := Text.fields src
  let argument := Text.join (utf8 " ") (fields.drop 1)
  match Directive.ofName (fields.headD []) with
  | .quit => return { r with ended := true }
  | .help =>
    printLine helpText
    return r
  | .clear =>
    printLine (← painted .yellow Session.clearedStatus)
    return { r with session := r.session.clear }
  | .forget =>
    match r.session.forget with
    | .error refusal =>
      printError refusal.message
      return r
    | .ok session => return { r with session := session, transcript := [] }
  | .svg =>
    if argument.isEmpty then
      printMessageLine (utf8 "usage: :svg <path>")
    else
      match ← writeDrawing r.session.turtle argument with
      | .ok () => pure ()
      | .error e => printError e
    return r
  | .save => r.askStore fun path store => r.save path store argument
  | .load => r.askStore fun _ store => r.load store argument
  | .list =>
    r.askStore fun _ store => do
      list store
      return r
  | .unknown =>
    printLine (utf8 "unknown command. Type :help for a list.")
    return r

def onOneLine (src : Text) : Text :=
  src.map fun b => if b == 0x0A then 0x20 else b

def obey (r : Repl) (src : Text) : m Repl := do
  if (Text.trim src).isEmpty then return r
  let r := { r with history := r.history.add (onOneLine src) }
  if isDirective src then r.direct (Text.trim src) else r.run src

def hear (r : Repl) (a : Answer) : m Repl :=
  match take r.pending a with
  | .pending src => pure { r with pending := src }
  | .whole src => { r with pending := [] }.obey src

def historyPath : m Text := do
  let home ← Surroundings.home
  let name := utf8 ".nlogo_history"
  return if home.isEmpty then name else home ++ utf8 "/" ++ name

def start (session : Session) (store : Option (Text × Store)) (outPath : Text) : m Repl := do
  let history :=
    match ← Surroundings.readFile (← historyPath) with
    | .ok t => History.read t
    | .error _ => []
  printLine banner
  return ⟨session, store, outPath, [], history, [], false⟩

/-- Leaves a conversation: the history is kept, if it can be. -/
def leave (r : Repl) : m Unit := do
  discard (Surroundings.writeFile (← historyPath) r.history.write)

def leaveAtEnd (r : Repl) : m Unit := do
  Surroundings.print (utf8 "\n")
  r.leave

def converse (r : Repl) : List Answer → m Unit
  | [] => do
    Surroundings.print (prompt r.pending)
    r.leaveAtEnd
  | a :: answers => do
    Surroundings.print (prompt r.pending)
    let r ← r.hear a
    if r.ended then r.leave else r.converse answers

end Repl

end Shell

end TurtleLogo
