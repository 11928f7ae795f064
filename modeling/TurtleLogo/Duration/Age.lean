import TurtleLogo.Duration

/-!
# Ages in words

How long ago something was, in the largest unit that fits: a month has thirty days, a year twelve
months.
-/

set_option autoImplicit false

namespace TurtleLogo

namespace Duration

/-- The ages below a number of seconds, the words for them, and the size of the unit that is
counted, 0 where the words say the number. -/
def ages : List (Nat × String × Nat) :=
  let day := 24 * 3600
  let month := 30 * day
  let year := 12 * month
  [(1, "now", 0), (2, "1 second", 0), (60, "seconds", 1), (120, "1 minute", 0),
    (3600, "minutes", 60), (7200, "1 hour", 0), (day, "hours", 3600), (2 * day, "1 day", 0),
    (7 * day, "days", day), (14 * day, "1 week", 0), (month, "weeks", 7 * day),
    (2 * month, "1 month", 0), (year, "months", month), (18 * month, "1 year", 0),
    (2 * year, "2 years", 0), (37 * year, "years", year)]

def ageWords (seconds : Nat) : Text :=
  match ages.find? fun (limit, _, _) => seconds < limit with
  | none => utf8 "a long while"
  | some (_, words, 0) => utf8 words
  | some (_, words, unit) => Text.ofNat (seconds / unit) ++ utf8 " " ++ utf8 words

/-- How long ago something was; a negative age is in the future. -/
def age (seconds : Int) : Text :=
  if seconds = 0 then ageWords 0
  else if seconds < 0 then ageWords seconds.natAbs ++ utf8 " from now"
  else ageWords seconds.natAbs ++ utf8 " ago"

end Duration

end TurtleLogo
