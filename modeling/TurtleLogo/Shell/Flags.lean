import TurtleLogo.Text.Glyph

/-!
# Command line flags

Flags stand in front of the other arguments. A flag is a letter behind a dash, several letters may
share a dash, and a flag that takes a value finds it behind its letter or in the next argument. The
flags end at the first argument that is empty, a dash alone, or does not start with a dash; two
dashes end them too, and are dropped.
-/

set_option autoImplicit false

namespace TurtleLogo

namespace Shell

/-- The flags of a command: each by its letter, with whether it takes a value. -/
abbrev FlagTable := List (Nat × Bool)

/-- A flag that was given, and its value, empty if it takes none. -/
structure Flag where
  letter : Nat
  value : Text
  deriving DecidableEq, Repr

inductive FlagError where
  | unknown (letter : Nat)
  | missingValue (letter : Nat)
  deriving DecidableEq, Repr

def FlagError.message : FlagError → Text
  | .unknown letter => utf8 "nlogo: unknown option -" ++ Glyph.encode letter
  | .missingValue letter => utf8 "nlogo: expected argument for -" ++ Glyph.encode letter

/-- The letters of an argument; a byte that is no character counts as an unreadable one. -/
def letters (arg : Text) : List Nat :=
  (Glyph.read arg).map fun
    | .char code => code
    | .stray _ => Glyph.replacement

/-- Reads the letters behind a dash. `following` are the arguments behind this one; the result says
which of them are left. -/
def readLetters (table : FlagTable) (following : List Text) :
    List Nat → Except FlagError (List Flag × List Text)
  | [] => .ok ([], following)
  | letter :: rest =>
    match table.lookup letter with
    | none => .error (.unknown letter)
    | some false =>
      (readLetters table following rest).map fun (flags, left) => (⟨letter, []⟩ :: flags, left)
    | some true =>
      if rest.isEmpty then
        match following with
        | [] => .error (.missingValue letter)
        | value :: left => .ok ([⟨letter, value⟩], left)
      else .ok ([⟨letter, rest.flatMap Glyph.encode⟩], following)

def readFlagsWithin (table : FlagTable) :
    (fuel : Nat) → List Text → Except FlagError (List Flag × List Text)
  | 0, args => .ok ([], args)
  | _, [] => .ok ([], [])
  | fuel + 1, arg :: args =>
    if arg == utf8 "--" then .ok ([], args)
    else
      match arg with
      | 0x2D :: b :: rest =>
        match readLetters table args (letters (b :: rest)) with
        | .error e => .error e
        | .ok (flags, left) =>
          (readFlagsWithin table fuel left).map fun (more, left) => (flags ++ more, left)
      | _ => .ok ([], arg :: args)

def readFlags (table : FlagTable) (args : List Text) : Except FlagError (List Flag × List Text) :=
  readFlagsWithin table args.length args

end Shell

end TurtleLogo
