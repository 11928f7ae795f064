import TurtleLogo.Shell.Options
import TurtleLogo.Shell.Repl

/-!
# Commands

The commands of the command line. A command ends with an exit code, or leads into a conversation.
-/

set_option autoImplicit false

namespace TurtleLogo

namespace Shell

def usage : Text :=
  utf8 "Usage: nlogo <command> [options]

Commands:
  run [-c config] [-o out.svg] [-d delay] [-v] <file>
  repl [-c config] [-o out.svg]
  serve [-c config] [-a addr] [-v]
  save [-c config] <name> <file>
  show [-c config] <name>
  list [-c config]
  delete [-c config] <name>
  samples
"

inductive Outcome where
  | exit (code : Nat)
  | converse (r : Repl)

variable {m : Type → Type} [Surroundings m]

def fail (message : Text) : m Outcome := do
  printError message
  return .exit 1

def misused (line : String) : m Outcome := do
  printMessageLine (utf8 "Usage: nlogo " ++ utf8 line)
  return .exit 1

def withOptions (table : FlagTable) (args : List Text) (command : Options → m Outcome) :
    m Outcome :=
  match readOptions table args with
  | .error e => fail e.message
  | .ok o => command o

def withSettings (o : Options) (command : Settings → m Outcome) : m Outcome := do
  match ← loadSettings o.configPath with
  | .error e => fail e
  | .ok s =>
    let s := if o.verbose then { s with logging.level := utf8 "debug" } else s
    if ← Surroundings.colored then command s else command { s with logging.color := false }

def withFile (path : Text) (command : Text → m Outcome) : m Outcome := do
  match ← Surroundings.readFile path with
  | .error fault => fail (utf8 "reading " ++ path ++ utf8 ": " ++ fault.message)
  | .ok t => command t

def printStatus (status : Text) : m Unit := do
  if isFailure status then printError status
  else printMessageLine (← painted .yellow status)

/-- Runs a program from a file. Whatever it has drawn is written, also if it fails. -/
def runFile (args : List Text) : m Outcome :=
  withOptions [configFlag, outFlag, delayFlag, verboseFlag] args fun o =>
    match o.arguments with
    | [path] =>
      withSettings o fun settings =>
      withFile path fun src => do
        let session := Session.fresh settings settings.logger
        match ← perform session (.program src) (o.delay.getD 0) printStatus with
        | .error refusal => fail refusal.message
        | .ok (session, report) =>
          match ← writeDrawing session.turtle o.outPath with
          | .error e => fail e
          | .ok () =>
            if report.error.isSome then return .exit 1
            printMessageLine (Number.grouped session.turtle.segments.size ++ utf8 " segments, "
              ++ Number.grouped report.steps ++ utf8 " steps")
            return .exit 0
    | _ => misused "run [-c config] [-o out.svg] [-d delay] [-v] <file>"

def repl (args : List Text) : m Outcome :=
  withOptions [configFlag, outFlag, verboseFlag] args fun o =>
    withSettings o fun settings => do
      let session := Session.fresh settings settings.logger
      let store ←
        match ← openStore settings.storage.path with
        | .ok store => pure (some (settings.storage.path, store))
        | .error e => do
          recordEntry (settings.logger.warn (utf8 "program store unavailable: " ++ e))
          pure none
      return .converse (← Repl.start session store o.outPath)

def serve (args : List Text) : m Outcome :=
  withOptions [configFlag, addressFlag, verboseFlag] args fun o =>
    withSettings o fun settings => do
      let address := if o.address.isEmpty then settings.serving.address else o.address
      match ← openStore settings.storage.path with
      | .error e => fail e
      | .ok store =>
        let session := Session.fresh settings settings.logger
        let server := Server.start settings session (some store) settings.logger
        match server.schedulePurges (← Surroundings.identifier) with
        | .error e => fail e
        | .ok entry =>
          recordEntry entry
          recordEntry (server.listening address)
          match Server.addressFailure? address with
          | some e => fail e
          | none => fail (Server.listenFailure address (← Surroundings.serve server address))

def withStore (args : List Text) (count : Nat) (line : String)
    (command : Text → Store → List Text → m Outcome) : m Outcome :=
  withOptions [configFlag] args fun o =>
    if o.arguments.length = count then
      withSettings o fun settings => do
        match ← openStore settings.storage.path with
        | .error e => fail e
        | .ok store => command settings.storage.path store o.arguments
    else misused line

def kept (path : Text) (store : Store) (message : Text) : m Outcome := do
  match ← keepStore path store with
  | .error fault => fail fault.message
  | .ok () =>
    printLine (← painted .green message)
    return .exit 0

def save (args : List Text) : m Outcome :=
  withStore args 2 "save [-c config] <name> <file>" fun path store arguments =>
    let name := arguments.getD 0 []
    withFile (arguments.getD 1 []) fun src => do
      match store.save (← moment) name src with
      | .error f => fail f.message
      | .ok store => kept path store (utf8 "Saved " ++ Text.quoted name ++ utf8 "!")

def withoutLastBreaks (t : Text) : Text :=
  (t.reverse.dropWhile (· == 0x0A)).reverse

def showProgram (args : List Text) : m Outcome :=
  withStore args 1 "show [-c config] <name>" fun _ store arguments => do
    match store.load (← moment) (arguments.getD 0 []) with
    | .error f => fail f.message
    | .ok row =>
      printMessageLine (row.name ++ utf8 ", saved " ++ (← Surroundings.age row.updatedAt)
        ++ utf8 ", " ++ row.fingerprint.take 12)
      printLine (withoutLastBreaks row.source)
      return .exit 0

def list (args : List Text) : m Outcome :=
  withStore args 0 "list [-c config]" fun _ store _ => do
    match store.list (← moment) with
    | .error f => fail f.message
    | .ok names =>
      for name in names do
        printLine name
      return .exit 0

def delete (args : List Text) : m Outcome :=
  withStore args 1 "delete [-c config] <name>" fun path store arguments => do
    let name := arguments.getD 0 []
    match store.delete (← moment) name with
    | .error f => fail f.message
    | .ok store => kept path store (utf8 "Deleted " ++ Text.quoted name)

def column (t : Text) : Text :=
  t ++ List.replicate (10 - t.length) 0x20

def samples : m Outcome := do
  for s in Sample.all do
    printLine (column s.name ++ utf8 " " ++ s.title)
  return .exit 0

def run (args : List Text) : m Outcome := do
  match args with
  | [] =>
    Surroundings.printMessage usage
    return .exit 1
  | name :: args =>
    if name == utf8 "run" then runFile args
    else if name == utf8 "repl" then repl args
    else if name == utf8 "serve" then serve args
    else if name == utf8 "save" then save args
    else if name == utf8 "show" then showProgram args
    else if name == utf8 "list" then list args
    else if name == utf8 "delete" then delete args
    else if name == utf8 "samples" then samples
    else if name == utf8 "help" || name == utf8 "-h" then
      Surroundings.print usage
      return .exit 0
    else
      printMessageLine (utf8 "Unknown command: " ++ name)
      Surroundings.printMessage usage
      return .exit 1

end Shell

end TurtleLogo
