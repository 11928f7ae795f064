import TurtleLogo.Text.Quoted

/-!
# Diagnostics

A diagnostic says what is wrong with a program and on which line. The line is not positive while it
is unknown; a diagnostic that travels outwards takes the first known line it meets and keeps it.
-/

set_option autoImplicit false

namespace TurtleLogo

namespace Diagnostic

inductive Kind where
  | structural
  | syntactic
  | value
  | recursionLimit
  | unclassified
  deriving DecidableEq, Repr

def Kind.name : Kind → Text
  | .structural => utf8 "structure"
  | .syntactic => utf8 "syntax"
  | .value => utf8 "value"
  | .recursionLimit => utf8 "recursion_limit"
  | .unclassified => utf8 "unknown"

/-- What all diagnostics of a class have in common. What has no class of its own counts as a
recursion error. -/
def Kind.summary : Kind → Text
  | .structural => utf8 "structural error"
  | .syntactic => utf8 "syntax error"
  | .value => utf8 "value error"
  | .recursionLimit => utf8 "recursion limit exceeded"
  | .unclassified => utf8 "recursion limit exceeded"

inductive Cause where
  | extraClosing
  | missingClosing
  | unclosedLoop
  | loopWithoutBlock
  | missingArgument (what : Text)
  | missingEnd (procedure : Text)
  | unknownCommand (spelling : Text)
  | unknownVariable (name : Text)
  | notANumber (command spelling : Text)
  | tooDeep (limit : Nat)
  | stated (kind : Kind) (message : Text)
  deriving DecidableEq, Repr

def Cause.kind : Cause → Kind
  | .extraClosing | .missingClosing | .unclosedLoop => .structural
  | .loopWithoutBlock | .missingArgument _ | .missingEnd _ | .unknownCommand _ => .syntactic
  | .unknownVariable _ | .notANumber .. => .value
  | .tooDeep _ => .recursionLimit
  | .stated kind _ => kind

def Cause.message : Cause → Text
  | .extraClosing => utf8 "Found extra ']' without '['"
  | .missingClosing => utf8 "Missing ']' for a REPEAT loop! Check your brackets."
  | .unclosedLoop => utf8 "Missing ']' for this REPEAT loop"
  | .loopWithoutBlock => utf8 "REPEAT needs a [ block ] after the count"
  | .missingArgument what => utf8 "Missing " ++ what
  | .missingEnd procedure => utf8 "Procedure " ++ procedure ++ utf8 " is missing END"
  | .unknownCommand spelling => utf8 "I don't know the command " ++ Text.quoted spelling
  | .unknownVariable name => utf8 "Variable \":" ++ name ++ utf8 "\" hasn't been created yet!"
  | .notANumber command spelling =>
    command ++ utf8 " needs a number, but got " ++ Text.quoted spelling
  | .tooDeep limit =>
    utf8 "Too much nesting! More than " ++ Text.ofNat limit ++
      utf8 " blocks or procedure calls are open"
  | .stated _ message => message

end Diagnostic

structure Diagnostic where
  cause : Diagnostic.Cause
  line : Int
  deriving DecidableEq, Repr

namespace Diagnostic

def kind (d : Diagnostic) : Kind :=
  d.cause.kind

def message (d : Diagnostic) : Text :=
  if 0 < d.line then utf8 "Line " ++ Text.ofInt d.line ++ utf8 ": " ++ d.cause.message
  else d.cause.message

/-- Gives a diagnostic a line, unless it has one or the line is not known. -/
def withLine (d : Diagnostic) (line : Int) : Diagnostic :=
  if 0 < line ∧ d.line ≤ 0 then { d with line := line } else d

/-- A failure on its way outwards: a diagnostic, one that is wrapped in the context it arose in, or
a plain message. -/
inductive Report where
  | bare (d : Diagnostic)
  | wrapped (context : Text) (d : Diagnostic)
  | plain (message : Text)
  deriving DecidableEq, Repr

namespace Report

def diagnostic? : Report → Option Diagnostic
  | .bare d | .wrapped _ d => some d
  | .plain _ => none

def message : Report → Text
  | .bare d => d.message
  | .wrapped context d => context ++ utf8 ": " ++ d.message
  | .plain message => message

/-- Gives a failure a line. A plain message becomes a syntax error, and a wrapped diagnostic that
gains a line loses its wrapping. -/
def withLine (r : Report) (line : Int) : Report :=
  if line ≤ 0 then r
  else
    match r.diagnostic? with
    | none => .bare ⟨.stated .syntactic r.message, line⟩
    | some d => if 0 < d.line then r else .bare { d with line := line }

end Report

end Diagnostic

end TurtleLogo
