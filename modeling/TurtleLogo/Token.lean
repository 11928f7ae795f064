import TurtleLogo.Text

/-!
# Tokens

A program is a list of tokens, each with its kind, its spelling and the line it stands on. `scan`
reads a source text from left to right and takes at each place the longest lexeme that starts
there; a byte that starts none is skipped, and a skipped newline moves to the next line.
-/

set_option autoImplicit false

namespace TurtleLogo

namespace Token

inductive Kind where
  | endOfText
  | opening
  | closing
  | number
  | word
  | quoted
  | variable
  | unknown
  deriving DecidableEq, Repr

end Token

structure Token where
  kind : Token.Kind
  text : Text
  line : Int
  deriving DecidableEq, Repr

namespace Token

def fraction : Text → Text
  | 0x2E :: b :: rest => if Text.isDigit b then 0x2E :: (b :: rest).takeWhile Text.isDigit else []
  | _ => []

/-- The lexeme that starts a text, if one does: a bracket, a number, a name, or a name behind a
quote or a colon. -/
def lexeme? : Text → Option (Kind × Text)
  | [] => none
  | b :: rest =>
    if b == 0x5B then some (.opening, [b])
    else if b == 0x5D then some (.closing, [b])
    else if Text.isDigit b then
      some (.number,
        b :: rest.takeWhile Text.isDigit ++ fraction (rest.dropWhile Text.isDigit))
    else if Text.isNameStart b then some (.word, b :: rest.takeWhile Text.isNamePart)
    else if b == 0x22 || b == 0x3A then
      match rest with
      | [] => none
      | c :: tail =>
        if Text.isNameStart c then
          some (if b == 0x3A then .variable else .quoted, b :: c :: tail.takeWhile Text.isNamePart)
        else none
    else none

theorem lexeme?_ne_nil {src text : Text} {kind : Kind} (found : lexeme? src = some (kind, text)) :
    text ≠ [] := by
  intro empty
  subst empty
  fun_cases lexeme? src <;> simp_all [lexeme?]

/-- The tokens of a text whose first byte stands on the given line. -/
def scanFrom (line : Int) (src : Text) : List Token :=
  match src with
  | [] => []
  | b :: rest =>
    match found : lexeme? (b :: rest) with
    | some (kind, text) => ⟨kind, text, line⟩ :: scanFrom line ((b :: rest).drop text.length)
    | none => scanFrom (if b = Text.newline then line + 1 else line) rest
termination_by src.length
decreasing_by
  · have := List.length_pos_iff.mpr (lexeme?_ne_nil found)
    simp only [List.length_drop, List.length_cons]
    omega
  · simp

def scan (src : Text) : List Token :=
  scanFrom 1 src

def endOf (src : Text) : Token :=
  ⟨.endOfText, [], 1 + src.count Text.newline⟩

end Token

end TurtleLogo
