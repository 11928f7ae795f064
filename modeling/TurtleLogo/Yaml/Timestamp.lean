import TurtleLogo.Text

/-!
# Timestamps

A scalar is a timestamp if it is a day of the calendar, perhaps with a time of day. Behind a `T` the
time has a zone, behind blanks it has none.
-/

set_option autoImplicit false

namespace TurtleLogo

namespace Yaml

namespace Timestamp

def daysIn (year month : Nat) : Nat :=
  if month = 2 then
    if year % 4 = 0 ∧ (year % 100 ≠ 0 ∨ year % 400 = 0) then 29 else 28
  else if month = 4 ∨ month = 6 ∨ month = 9 ∨ month = 11 then 30
  else 31

def number? : Text → Option (Nat × Text)
  | a :: b :: rest =>
    if !Text.isDigit a then none
    else if Text.isDigit b then some (Text.digitValue a * 10 + Text.digitValue b, rest)
    else some (Text.digitValue a, b :: rest)
  | [a] => if Text.isDigit a then some (Text.digitValue a, []) else none
  | [] => none

def behind? (b : UInt8) : Text → Option Text
  | c :: rest => if c == b then some rest else none
  | [] => none

def behindFraction : Text → Text
  | mark :: digit :: rest =>
    if (mark == 0x2E || mark == 0x2C) && Text.isDigit digit then rest.dropWhile Text.isDigit
    else mark :: digit :: rest
  | t => t

def behindTime? (t : Text) : Option Text := do
  let (hour, t) ← number? t
  let t ← behind? 0x3A t
  let (minute, t) ← number? t
  let t ← behind? 0x3A t
  let (second, t) ← number? t
  if hour < 24 ∧ minute < 60 ∧ second < 60 then some (behindFraction t) else none

def isZone : Text → Bool
  | [0x5A] => true
  | [sign, a, b, 0x3A, c, d] =>
    (sign == 0x2B || sign == 0x2D) && [a, b, c, d].all Text.isDigit
      && Text.toNat [a, b] ≤ 24 && Text.toNat [c, d] ≤ 60
  | _ => false

def isTimeOrEnd (t : Text) : Bool :=
  match t with
  | [] => true
  | b :: rest =>
    if b == 0x54 || b == 0x74 then (behindTime? rest).any isZone
    else b == 0x20 && (behindTime? (rest.dropWhile (· == 0x20))).any List.isEmpty

end Timestamp

/-- Whether a text is a timestamp: four digits for the year, one or two for the month and for the
day, and perhaps a time. -/
def isTimestamp (t : Text) : Bool :=
  let year := t.takeWhile Text.isDigit
  year.length == 4 &&
    ((do
      let t ← Timestamp.behind? 0x2D (t.drop 4)
      let (month, t) ← Timestamp.number? t
      let t ← Timestamp.behind? 0x2D t
      let (day, t) ← Timestamp.number? t
      if 1 ≤ month ∧ month ≤ 12 ∧ 1 ≤ day ∧ day ≤ Timestamp.daysIn (Text.toNat year) month then
        some t
      else none).any Timestamp.isTimeOrEnd)

end Yaml

end TurtleLogo
