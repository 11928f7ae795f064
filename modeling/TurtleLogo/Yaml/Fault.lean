import TurtleLogo.Text

/-!
# Faults in YAML texts

A fault is found in the bytes, in a lexeme, in the arrangement of the lexemes, or in what the nodes
mean. The message names a line unless it is the first one.
-/

set_option autoImplicit false

namespace TurtleLogo

namespace Yaml

/-- A place in a text: the number of characters before it, and its line and column, all counted from
zero. -/
structure Place where
  index : Nat
  line : Nat
  column : Nat
  deriving DecidableEq, Repr

def Place.start : Place :=
  ⟨0, 0, 0⟩

/-- A fault in a lexeme or in the arrangement of lexemes has a context, where the thing it is in
started, and a place where it was noticed. All other faults have no place. -/
inductive Fault where
  | general (problem : Text)
  | lexeme (problem : Text) (context noticed : Place)
  | arrangement (problem : Text) (context noticed : Place)
  deriving DecidableEq, Repr

def shownLine (context noticed : Place) (offset : Nat) : Text :=
  let line := if context.line = 0 then noticed.line else context.line
  if line = 0 then [] else utf8 "line " ++ Text.ofNat (line + offset) ++ utf8 ": "

def Fault.message : Fault → Text
  | .general problem => problem
  | .lexeme problem context noticed => shownLine context noticed 1 ++ problem
  | .arrangement problem context noticed => shownLine context noticed 0 ++ problem

end Yaml

end TurtleLogo
