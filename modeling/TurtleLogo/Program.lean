import TurtleLogo.Token
import TurtleLogo.Diagnostic
import TurtleLogo.Text.Upper

/-!
# The structure of programs

A program is a list of tokens. `[` and `]` enclose the blocks of loops, and the words `DEF` and
`END`, in any casing, enclose the bodies of procedures. The two nest independently. This module
finds the extents of blocks and bodies, refuses unbalanced brackets, and tells whether more input
could still complete a program.
-/

set_option autoImplicit false

namespace TurtleLogo

abbrev Program := List Token

namespace Token

def isWord (t : Token) (upperName : Text) : Bool :=
  t.kind == .word && Text.upper t.text == upperName

def isDef (t : Token) : Bool :=
  t.isWord (utf8 "DEF")

def isEnd (t : Token) : Bool :=
  t.isWord (utf8 "END")

end Token

namespace Program

def faultFrom (depth : Nat) : Program → Option Diagnostic
  | [] => if depth = 0 then none else some ⟨.missingClosing, 0⟩
  | t :: rest =>
    match t.kind with
    | .opening => faultFrom (depth + 1) rest
    | .closing =>
      match depth with
      | 0 => some ⟨.extraClosing, t.line⟩
      | outer + 1 => faultFrom outer rest
    | _ => faultFrom depth rest

/-- What is wrong with the brackets of a program, if anything: a `]` that closes nothing is reported
on its line, a `[` that stays open without one. -/
def fault? (p : Program) : Option Diagnostic :=
  faultFrom 0 p

/-- Splits a program at the `]` that closes a block, `depth` more being open inside it. -/
def splitBlock (depth : Nat) : Program → Option (Program × Program)
  | [] => none
  | t :: rest =>
    match t.kind with
    | .opening => (splitBlock (depth + 1) rest).map fun (body, after) => (t :: body, after)
    | .closing =>
      match depth with
      | 0 => some ([], rest)
      | inner + 1 => (splitBlock inner rest).map fun (body, after) => (t :: body, after)
    | _ => (splitBlock depth rest).map fun (body, after) => (t :: body, after)

def startsBlock : Program → Bool
  | t :: _ => t.kind == .opening
  | [] => false

def block? : Program → Option (Program × Program)
  | [] => none
  | t :: rest => if t.kind = .opening then splitBlock 0 rest else none

def splitDefinition (depth : Nat) : Program → Option (Program × Program)
  | [] => none
  | t :: rest =>
    if t.isDef then
      (splitDefinition (depth + 1) rest).map fun (body, after) => (t :: body, after)
    else if t.isEnd then
      match depth with
      | 0 => some ([], rest)
      | inner + 1 => (splitDefinition inner rest).map fun (body, after) => (t :: body, after)
    else (splitDefinition depth rest).map fun (body, after) => (t :: body, after)

def definition? (p : Program) : Option (Program × Program) :=
  splitDefinition 0 p

/-- A part of a program found from some place on: the tokens inside it and the place just behind
it. When none is found there are no tokens and the place is where the search gave up. -/
structure Extent where
  body : Program
  next : Nat
  found : Bool
  deriving DecidableEq, Repr

def blockAt (p : Program) (start : Nat) : Extent :=
  match block? (p.drop start) with
  | some (body, after) => ⟨body, p.length - after.length, true⟩
  | none => ⟨[], if startsBlock (p.drop start) then p.length else start, false⟩

def definitionAt (p : Program) (start : Nat) : Extent :=
  match definition? (p.drop start) with
  | some (body, after) => ⟨body, p.length - after.length, true⟩
  | none => ⟨[], p.length, false⟩

def incompleteFrom (brackets definitions : Nat) : Program → Bool
  | [] => 0 < brackets || 0 < definitions
  | t :: rest =>
    match t.kind with
    | .opening => incompleteFrom (brackets + 1) definitions rest
    | .closing =>
      match brackets with
      | 0 => false
      | outer + 1 => incompleteFrom outer definitions rest
    | _ =>
      if t.isDef then incompleteFrom brackets (definitions + 1) rest
      else if t.isEnd then incompleteFrom brackets (definitions - 1) rest
      else incompleteFrom brackets definitions rest

/-- Whether more input could complete the program: a bracket or a definition is open, and no `]`
closes nothing. -/
def incomplete (p : Program) : Bool :=
  incompleteFrom 0 0 p

end Program

end TurtleLogo
