import Mathlib
import TurtleLogo.Turtle

/-!
# The strokes of a turtle

What a turtle has drawn and where it stands follows from the calls behind the last reset alone. They
draw one stroke for every move with the pen down, from the place before the move to the place after
it, in the colour that was chosen last and the width of the canvas's pen. While the pen stays down
the strokes form one line from the centre to the turtle. How far a move goes is left to the
arithmetic of floating-point numbers, of which nothing is assumed.
-/

set_option autoImplicit false

namespace TurtleLogo

namespace Turtle

inductive Call where
  | advance (distance : Float)
  | turn (degrees : Float) (factor : Int)
  | setPen (down : Bool)
  | setColor (spec : Text)
  | reset

namespace Call

def isReset : Call → Bool
  | .reset => true
  | _ => false

def pen? : Call → Option Bool
  | .setPen down => some down
  | _ => none

def color? : Call → Option Text
  | .setColor spec => some spec
  | _ => none

end Call

def obey (t : Turtle) : Call → Turtle
  | .advance distance => t.advance distance
  | .turn degrees factor => t.turn degrees factor
  | .setPen down => t.setPen down
  | .setColor spec => t.setColor spec
  | .reset => t.reset

def obeyAll (t : Turtle) (calls : List Call) : Turtle :=
  calls.foldl obey t

/-! ## What the calls say -/

def sinceReset (calls : List Call) : List Call :=
  calls.rtakeWhile fun c => !c.isReset

def penAfter (calls : List Call) : Bool :=
  (calls.filterMap Call.pen?).getLast?.getD true

def colorAfter (o : Options) (calls : List Call) : Text :=
  (calls.filterMap Call.color?).getLast?.getD o.color

def positionAfter (o : Options) (calls : List Call) : Point :=
  ((home o).obeyAll calls).position

/-- The stroke of the call at a place, if it is a move and the pen is down. -/
def stroke? (o : Options) (calls : List Call) (place : Nat) : Option Segment :=
  match calls[place]? with
  | some (.advance _) =>
    if penAfter (calls.take place) then
      some ⟨positionAfter o (calls.take place), positionAfter o (calls.take (place + 1)),
        colorAfter o (calls.take place), o.penWidth⟩
    else none
  | _ => none

def strokes (o : Options) (calls : List Call) : List Segment :=
  (List.range calls.length).filterMap (stroke? o calls)

/-- `Connects a segments b`: the segments lead from `a` to `b`, each from where the one before it
ends. -/
inductive Connects : Point → List Segment → Point → Prop
  | nil (a : Point) : Connects a [] a
  | cons (s : Segment) {rest : List Segment} {b : Point} (behind : Connects s.target rest b) :
      Connects s.origin (s :: rest) b

/-! ## One call more -/

def drawn? (t : Turtle) (c : Call) : Option Segment :=
  match c with
  | .advance _ =>
    if t.penDown then some ⟨t.position, (t.obey c).position, t.color, t.options.penWidth⟩ else none
  | _ => none

section

variable {o : Options} {calls : List Call} {c : Call}

theorem obeyAll_concat (t : Turtle) (calls : List Call) (c : Call) :
    t.obeyAll (calls ++ [c]) = (t.obeyAll calls).obey c := by
  simp [obeyAll]

theorem options_obey (t : Turtle) (c : Call) : (t.obey c).options = t.options := by
  cases c <;> rfl

theorem penDown_obey {t : Turtle} (noReset : c.isReset = false) :
    (t.obey c).penDown = c.pen?.getD t.penDown := by
  cases c with
  | reset => cases noReset
  | _ => rfl

theorem color_obey {t : Turtle} (noReset : c.isReset = false) :
    (t.obey c).color = c.color?.getD t.color := by
  cases c with
  | reset => cases noReset
  | _ => rfl

theorem segments_obey {t : Turtle} (noReset : c.isReset = false) :
    (t.obey c).segments.toList = t.segments.toList ++ (t.drawn? c).toList := by
  cases c with
  | advance distance => cases pen : t.penDown <;> simp [obey, advance, drawn?, pen]
  | reset => cases noReset
  | _ => simp [obey, turn, setPen, setColor, drawn?]

theorem sinceReset_concat :
    sinceReset (calls ++ [c]) = if c.isReset then [] else sinceReset calls ++ [c] := by
  rw [sinceReset, List.rtakeWhile_concat]
  cases c <;> rfl

theorem penAfter_concat : penAfter (calls ++ [c]) = c.pen?.getD (penAfter calls) := by
  cases c <;> simp [penAfter, Call.pen?]

theorem colorAfter_concat : colorAfter o (calls ++ [c]) = c.color?.getD (colorAfter o calls) := by
  cases c <;> simp [colorAfter, Call.color?]

/-- Later calls change nothing about the strokes of earlier ones. -/
theorem stroke?_append (more : List Call) {place : Nat} (short : place < calls.length) :
    stroke? o (calls ++ more) place = stroke? o calls place := by
  rw [stroke?, stroke?, List.getElem?_append_left short, List.take_append_of_le_length short.le,
    List.take_append_of_le_length short]

theorem stroke?_last :
    stroke? o (calls ++ [c]) calls.length =
      match c with
      | .advance _ =>
        if penAfter calls then
          some ⟨positionAfter o calls, positionAfter o (calls ++ [c]), colorAfter o calls,
            o.penWidth⟩
        else none
      | _ => none := by
  have whole : (calls ++ [c]).take (calls.length + 1) = calls ++ [c] :=
    List.take_of_length_le (by simp)
  rw [stroke?, List.getElem?_concat_length, List.take_left, whole]
  cases c <;> rfl

theorem strokes_concat :
    strokes o (calls ++ [c]) =
      strokes o calls ++ (stroke? o (calls ++ [c]) calls.length).toList := by
  have earlier :
      (List.range calls.length).filterMap (stroke? o (calls ++ [c])) = strokes o calls := by
    apply List.filterMap_congr
    intro place short
    exact stroke?_append [c] (List.mem_range.mp short)
  rw [strokes, List.length_append, List.length_singleton, List.range_succ, List.filterMap_append,
    earlier]
  rfl

theorem Connects.concat {a b : Point} {segments : List Segment} (connects : Connects a segments b)
    (s : Segment) (joins : s.origin = b) : Connects a (segments ++ [s]) s.target := by
  induction connects with
  | nil a =>
    subst joins
    exact .cons s (.nil s.target)
  | cons first behind ih => exact .cons first (ih joins)

end

/-! ## All calls -/

section

variable {o : Options} {calls : List Call}

theorem options_obeyAll (t : Turtle) (calls : List Call) :
    (t.obeyAll calls).options = t.options := by
  induction calls using List.reverseRecOn with
  | nil => rfl
  | append_singleton calls c ih => rw [obeyAll_concat, options_obey, ih]

/-- A turtle that was reset is like a new one. -/
theorem obeyAll_sinceReset (o : Options) (calls : List Call) :
    (home o).obeyAll calls = (home o).obeyAll (sinceReset calls) := by
  -- From the end: a reset there forgets all that stands before it, any other call keeps both sides
  -- in step.
  induction calls using List.reverseRecOn with
  | nil => rfl
  | append_singleton calls c ih =>
    rw [sinceReset_concat, obeyAll_concat]
    cases reset : c.isReset with
    | false => rw [if_neg (by simp), obeyAll_concat, ih]
    | true =>
      cases c <;> cases reset
      exact congrArg home (options_obeyAll (home o) calls)

theorem not_isReset_of_mem_sinceReset {c : Call} (member : c ∈ sinceReset calls) :
    c.isReset = false := by
  simpa using List.mem_rtakeWhile_imp member

/-- `Shows o calls t`: pen, colour and drawing of the turtle are what the calls say. -/
structure Shows (o : Options) (calls : List Call) (t : Turtle) : Prop where
  pen : t.penDown = penAfter calls
  color : t.color = colorAfter o calls
  segments : t.segments.toList = strokes o calls

theorem Shows.concat {c : Call} (shows : Shows o calls ((home o).obeyAll calls))
    (noReset : c.isReset = false) : Shows o (calls ++ [c]) ((home o).obeyAll (calls ++ [c])) := by
  let t := (home o).obeyAll calls
  have options : t.options = o := options_obeyAll (home o) calls
  -- What the turtle draws now, by its own state, is what the calls say about the last place.
  have stroke : t.drawn? c = stroke? o (calls ++ [c]) calls.length := by
    cases c with
    | advance distance =>
      simp only [drawn?, stroke?_last, positionAfter, obeyAll_concat]
      rw [shows.pen, shows.color, options]
    | _ => simp only [drawn?, stroke?_last]
  rw [obeyAll_concat]
  constructor
  · rw [penDown_obey noReset, penAfter_concat, shows.pen]
  · rw [color_obey noReset, colorAfter_concat, shows.color]
  · calc (t.obey c).segments.toList
        = t.segments.toList ++ (t.drawn? c).toList := segments_obey noReset
      _ = strokes o calls ++ (stroke? o (calls ++ [c]) calls.length).toList := by
          rw [shows.segments, stroke]
      _ = strokes o (calls ++ [c]) := strokes_concat.symm

theorem shows_obeyAll (noReset : ∀ c ∈ calls, c.isReset = false) :
    Shows o calls ((home o).obeyAll calls) := by
  induction calls using List.reverseRecOn with
  | nil => exact ⟨rfl, rfl, rfl⟩
  | append_singleton calls last ih =>
    apply Shows.concat
    · apply ih
      intro c member
      exact noReset c (List.mem_append_left [last] member)
    · exact noReset last (by simp)

structure Joined (start : Point) (t : Turtle) : Prop where
  pen : t.penDown = true
  connects : Connects start t.segments.toList t.position

theorem Joined.obey {start : Point} {t : Turtle} {c : Call} (joined : Joined start t)
    (noReset : c.isReset = false) (lowered : c ≠ .setPen false) : Joined start (t.obey c) := by
  cases c with
  | advance distance =>
    refine ⟨joined.pen, ?_⟩
    have stroke : t.drawn? (.advance distance) =
        some ⟨t.position, (t.obey (.advance distance)).position, t.color, t.options.penWidth⟩ := by
      simp [drawn?, joined.pen]
    rw [segments_obey noReset, stroke]
    exact joined.connects.concat _ rfl
  | setPen down =>
    cases down with
    | false => exact absurd rfl lowered
    | true => exact ⟨rfl, joined.connects⟩
  | turn degrees factor => exact ⟨joined.pen, joined.connects⟩
  | setColor spec => exact ⟨joined.pen, joined.connects⟩
  | reset => cases noReset

theorem joined_obeyAll (noReset : ∀ c ∈ calls, c.isReset = false)
    (lowered : ∀ c ∈ calls, c ≠ .setPen false) :
    Joined (home o).position ((home o).obeyAll calls) := by
  induction calls using List.reverseRecOn with
  | nil => exact ⟨rfl, .nil _⟩
  | append_singleton calls last ih =>
    rw [obeyAll_concat]
    apply Joined.obey
    · apply ih
      · intro c member
        exact noReset c (List.mem_append_left [last] member)
      · intro c member
        exact lowered c (List.mem_append_left [last] member)
    · exact noReset last (by simp)
    · exact lowered last (by simp)

end

/-- A turtle is as if it were new and only the calls behind the last reset had been made. It has
drawn the strokes of these calls, and no others. If none of them raised the pen, the strokes connect
the centre of the canvas with the place where the turtle is. -/
theorem drawing_is_traced_since_reset (o : Options) (calls : List Call) :
    let t := (home o).obeyAll calls
    t = (home o).obeyAll (sinceReset calls) ∧
      t.segments.toList = strokes o (sinceReset calls) ∧
      ((∀ c ∈ sinceReset calls, c ≠ .setPen false) →
        Connects ⟨o.width / 2, o.height / 2⟩ t.segments.toList t.position) := by
  intro t
  have same : t = (home o).obeyAll (sinceReset calls) := obeyAll_sinceReset o calls
  have noReset : ∀ c ∈ sinceReset calls, c.isReset = false := by
    intro c member
    exact not_isReset_of_mem_sinceReset member
  refine ⟨same, ?_, ?_⟩
  · rw [same]
    exact (shows_obeyAll noReset).segments
  · intro lowered
    rw [same]
    exact (joined_obeyAll noReset lowered).connects

/-- A turn, two moves and a change of colour behind a reset. -/
theorem drawing_is_traced_since_reset_corner :
    let o := Options.standard
    let calls : List Call := [.setPen false, .advance 5, .reset, .advance 1, .turn 90 (-3),
      .setColor (utf8 "red"), .advance 2]
    let t := (home o).obeyAll calls
    (t.segments.toList.map fun s => (s.color, s.width)) =
        [(o.color, o.penWidth), (utf8 "red", o.penWidth)] ∧
      Connects ⟨o.width / 2, o.height / 2⟩ t.segments.toList t.position := by
  intro o calls t
  obtain ⟨_, drawn, connects⟩ := drawing_is_traced_since_reset o calls
  refine ⟨?_, ?_⟩
  · rw [drawn]
    rfl
  · apply connects
    intro c member raised
    subst raised
    simp [calls, sinceReset, List.rtakeWhile, Call.isReset] at member

end Turtle

end TurtleLogo
