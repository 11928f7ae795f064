import TurtleLogo.Duration
import TurtleLogo.Shell.Flags
import TurtleLogo.Text.Quoted

/-!
# Options of commands

What the flags of a command mean. Of a flag given twice the last one counts.
-/

set_option autoImplicit false

namespace TurtleLogo

namespace Shell

structure Options where
  configPath : Text
  outPath : Text
  address : Text
  delay : Option Duration
  verbose : Bool
  arguments : List Text
  deriving DecidableEq, Repr

inductive OptionError where
  | flag (e : FlagError)
  | delay (value : Text)
  deriving DecidableEq, Repr

def OptionError.message : OptionError → Text
  | .flag e => e.message
  | .delay value => utf8 "invalid -d parameter " ++ Text.quoted value

def Options.none (arguments : List Text) : Options :=
  ⟨[], [], [], .none, false, arguments⟩

def configFlag : Nat × Bool := (0x63, true)
def outFlag : Nat × Bool := (0x6F, true)
def addressFlag : Nat × Bool := (0x61, true)
def delayFlag : Nat × Bool := (0x64, true)
def verboseFlag : Nat × Bool := (0x76, false)

def Options.apply (o : Options) (f : Flag) : Except OptionError Options :=
  if f.letter = configFlag.1 then .ok { o with configPath := f.value }
  else if f.letter = outFlag.1 then .ok { o with outPath := f.value }
  else if f.letter = addressFlag.1 then .ok { o with address := f.value }
  else if f.letter = verboseFlag.1 then .ok { o with verbose := true }
  else if f.letter = delayFlag.1 then
    match Duration.parse? f.value with
    | some d => if d < 0 then .error (.delay f.value) else .ok { o with delay := some d }
    | .none => .error (.delay f.value)
  else .ok o

def readOptions (table : FlagTable) (args : List Text) : Except OptionError Options :=
  match readFlags table args with
  | .error e => .error (.flag e)
  | .ok (flags, rest) => flags.foldlM Options.apply (Options.none rest)

end Shell

end TurtleLogo
