import TurtleLogo.Program
import TurtleLogo.Text.Blank

/-!
# Chunks of input

Lines are collected until they make a whole input: one that leaves no bracket and no definition
open, or a directive, which starts with a colon.
-/

set_option autoImplicit false

namespace TurtleLogo

namespace Shell

inductive Answer where
  | line (t : Text)
  | aborted
  deriving DecidableEq, Repr

def isDirective (src : Text) : Bool :=
  (Text.trim src).head? == some 0x3A

def isWhole (src : Text) : Bool :=
  isDirective src || !Program.incomplete (Token.scan src)

/-- Collected lines and one more; nothing is collected if the text is empty. -/
def collect (pending line : Text) : Text :=
  if pending.isEmpty then line else pending ++ utf8 "\n" ++ line

inductive Collected where
  | whole (src : Text)
  | pending (src : Text)
  deriving DecidableEq, Repr

def take (pending : Text) : Answer → Collected
  | .aborted => .pending []
  | .line t =>
    let src := collect pending t
    if isWhole src then .whole src else .pending src

/-- The first whole input in a series of answers, and the answers behind it. -/
def nextChunk? (pending : Text) : List Answer → Option (Text × List Answer)
  | [] => none
  | a :: rest =>
    match take pending a with
    | .whole src => some (src, rest)
    | .pending src => nextChunk? src rest

def prompt (pending : Text) : Text :=
  if pending.isEmpty then utf8 "logo> " else utf8 "....> "

end Shell

end TurtleLogo
