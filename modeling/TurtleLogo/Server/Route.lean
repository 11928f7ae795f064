import TurtleLogo.Text

/-!
# Routes

What the path of a request asks for. Names in paths may contain slashes.
-/

set_option autoImplicit false

namespace TurtleLogo

inductive Route where
  | run
  | clear
  | canvas
  | render
  | samples
  | runSample (name : Text)
  | programs
  | program (name : Text)
  | runProgram (name : Text)
  | unknown
  deriving DecidableEq, Repr

namespace Route

def before? (ending t : Text) : Option Text :=
  (ending.reverse.isPrefixOf? t.reverse).map List.reverse

def ofSample (rest : Text) : Route :=
  match before? (utf8 "/run") rest with
  | some name => .runSample name
  | none => .unknown

def ofProgram (rest : Text) : Route :=
  match before? (utf8 "/run") rest with
  | some name => .runProgram name
  | none => .program rest

def ofPath (path : Text) : Route :=
  if path == utf8 "/run" then .run
  else if path == utf8 "/clear" then .clear
  else if path == utf8 "/canvas.svg" then .canvas
  else if path == utf8 "/render" then .render
  else if path == utf8 "/samples" then .samples
  else if path == utf8 "/programs" then .programs
  else
    match (utf8 "/samples/").isPrefixOf? path, (utf8 "/programs/").isPrefixOf? path with
    | some rest, _ => ofSample rest
    | none, some rest => ofProgram rest
    | none, none => .unknown

def method? : Route → Option Text
  | .run | .clear | .render | .runSample _ | .runProgram _ => some (utf8 "POST")
  | .canvas | .samples | .programs => some (utf8 "GET")
  | .program _ | .unknown => none

end Route

end TurtleLogo
