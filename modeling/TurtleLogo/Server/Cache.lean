import TurtleLogo.Text

/-!
# Caches of a fixed size

A cache keeps at most `capacity` values, those that were put in or looked up last. One of capacity 0
keeps nothing.
-/

set_option autoImplicit false

namespace TurtleLogo

/-- Values under keys, the one used last in front. -/
structure Cache where
  capacity : Nat
  entries : List (Text × Text)
  deriving DecidableEq, Repr

namespace Cache

def empty (capacity : Nat) : Cache :=
  ⟨capacity, []⟩

def without (key : Text) (entries : List (Text × Text)) : List (Text × Text) :=
  entries.filter fun entry => entry.1 != key

def look (c : Cache) (key : Text) : Option (Text × Cache) :=
  match c.entries.find? (·.1 == key) with
  | none => none
  | some (_, value) => some (value, { c with entries := (key, value) :: without key c.entries })

/-- Puts a value in; of too many values, the one not used for the longest time is dropped. -/
def put (c : Cache) (key value : Text) : Cache :=
  { c with entries := ((key, value) :: without key c.entries).take c.capacity }

end Cache

end TurtleLogo
