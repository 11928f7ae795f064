import TurtleLogo.Proofs.Markup

/-!
# Drawings as documents

Whatever texts the background and the colours of a drawing are, its document has the tags that it
should have and no others: the outer ones, one for the background, one for each segment in the order
they were drawn, and one for the turtle. The values of their attributes read as the texts that were
given.
-/

set_option autoImplicit false

namespace TurtleLogo

open Markup

namespace Number

/-! ## Written numbers -/

theorem lt_ten_of_mem_digitsOf {n d : Nat} (member : d ∈ digitsOf n) : d < 10 := by
  obtain ⟨c, digit, rfl⟩ := List.mem_map.mp member
  have decimal := Nat.isDigit_of_mem_toDigits (by decide) (by decide) digit
  have bounds : 48 ≤ c.toNat ∧ c.toNat ≤ 57 := by
    simpa [Char.isDigit, UInt32.le_iff_toNat_le] using decimal
  omega

theorem mem_trimZeros {digits : List Nat} {d : Nat} (member : d ∈ trimZeros digits) :
    d = 0 ∨ d ∈ digits := by
  unfold trimZeros at member
  split at member
  · exact .inl (List.mem_singleton.mp member)
  · right
    rw [List.mem_reverse] at member
    exact List.mem_reverse.mp (List.dropWhile_suffix _ |>.subset member)

theorem lt_ten_of_mem_digitsOfParts {m : Nat} {q : Int} {d : Nat}
    (member : d ∈ (digitsOfParts m q).digits) : d < 10 := by
  unfold digitsOfParts at member
  split at member
  · simp at member
    omega
  · rcases mem_trimZeros member with rfl | digit
    · decide
    · exact lt_ten_of_mem_digitsOf digit

@[simp] theorem unmarked_zeros (n : Nat) : Unmarked (zeros n) := by
  intro b member
  rw [List.eq_of_mem_replicate member]
  rfl

theorem unmarked_digitText {digits : List Nat} (decimal : ∀ d ∈ digits, d < 10) :
    Unmarked (digitText digits) := by
  have each : ∀ d < 10, isMark (Text.digitByte d) = false := by decide
  intro b member
  obtain ⟨d, digit, rfl⟩ := List.mem_map.mp member
  exact each d (decimal d digit)

theorem unmarked_behindPoint {t : Text} (unmarked : Unmarked t) : Unmarked (behindPoint t) := by
  unfold behindPoint
  split
  · decide
  · exact unmarked_append.mpr ⟨by decide, unmarked⟩

theorem unmarked_positional {d : Decimal} (decimal : ∀ n ∈ d.digits, n < 10) :
    Unmarked (positional d) := by
  unfold positional
  split
  · simp only [unmarked_append, unmarked_zeros, and_true]
    constructor
    · exact unmarked_digitText fun n member => decimal n (List.mem_of_mem_take member)
    · apply unmarked_behindPoint
      exact unmarked_digitText fun n member => decimal n (List.mem_of_mem_drop member)
  · have digits := unmarked_digitText decimal
    simp +decide [digits]

theorem unmarked_plain (x : Float) : Unmarked (plain x) := by
  unfold plain
  cases parts x with
  | nan => decide
  | infinite negative => cases negative <;> decide
  | finite negative m q =>
    refine unmarked_append.mpr
      ⟨?_, unmarked_positional fun d member => lt_ten_of_mem_digitsOfParts member⟩
    cases negative <;> decide

end Number

namespace Turtle

/-! ## The tags of a drawing -/

@[simp] theorem unmarked_coordinate (x : Float) : Unmarked (coordinate x) :=
  Number.unmarked_plain _

def openingParts (o : Options) : List Text :=
  [utf8 "svg xmlns=", utf8 "http://www.w3.org/2000/svg", utf8 " width=", coordinate o.width,
    utf8 " height=", coordinate o.height, utf8 " viewBox=",
    utf8 "0 0 " ++ coordinate o.width ++ utf8 " " ++ coordinate o.height, []]

def backgroundParts (background : Text) : List Text :=
  [utf8 "rect width=", utf8 "100%", utf8 " height=", utf8 "100%", utf8 " fill=", escape background,
    utf8 "/"]

def lineParts (s : Segment) : List Text :=
  [utf8 "line x1=", coordinate s.origin.x, utf8 " y1=", coordinate s.origin.y, utf8 " x2=",
    coordinate s.target.x, utf8 " y2=", coordinate s.target.y, utf8 " stroke=", escape s.color,
    utf8 " stroke-width=", coordinate s.width, utf8 " stroke-linecap=", utf8 "round", utf8 "/"]

def cursorParts (t : Turtle) : List Text :=
  [utf8 "polygon points=", utf8 "0,-10 7,7 -7,7", utf8 " fill=", escape t.color,
    utf8 " transform=", utf8 "translate(" ++ coordinate t.position.x ++ utf8 " "
      ++ coordinate t.position.y ++ utf8 ") rotate(" ++ coordinate (t.heading + 90) ++ utf8 ")",
    utf8 "/"]

def drawingParts (t : Turtle) : List (List Text) :=
  openingParts t.options ::
    ((if t.options.background.isEmpty then [] else [backgroundParts t.options.background])
      ++ (t.segments.toList.map lineParts
        ++ ((if t.options.showCursor then [cursorParts t] else []) ++ [[utf8 "/svg"]])))

theorem clean_openingParts (o : Options) : ∀ part ∈ openingParts o, Unmarked part := by
  simp +decide [openingParts]

theorem clean_backgroundParts (background : Text) :
    ∀ part ∈ backgroundParts background, Unmarked part := by
  simp +decide [backgroundParts]

theorem clean_lineParts (s : Segment) : ∀ part ∈ lineParts s, Unmarked part := by
  simp +decide [lineParts]

theorem clean_cursorParts (t : Turtle) : ∀ part ∈ cursorParts t, Unmarked part := by
  simp +decide [cursorParts]

/-! ## The document of a drawing -/

theorem laid_opening (o : Options) : Laid (openingTag o) [openingParts o] := by
  have start : utf8 "<svg xmlns=\"http://www.w3.org/2000/svg\" width=\"" =
      0x3C :: (utf8 "svg xmlns=" ++ 0x22 :: (utf8 "http://www.w3.org/2000/svg" ++
        0x22 :: (utf8 " width=" ++ [0x22]))) := by
    decide
  have height : utf8 "\" height=\"" = 0x22 :: (utf8 " height=" ++ [0x22]) := by decide
  have viewBox : utf8 "\" viewBox=\"0 0 " =
      0x22 :: (utf8 " viewBox=" ++ 0x22 :: utf8 "0 0 ") := by
    decide
  have finish : utf8 "\">\n" = 0x22 :: 0x3E :: utf8 "\n" := by decide
  have written : openingTag o =
      [] ++ 0x3C :: (Text.join [0x22] (openingParts o) ++ 0x3E :: utf8 "\n") := by
    simp only [openingTag, openingParts, Text.join_cons_cons, Text.join, start, height, viewBox,
      finish, List.append_assoc, List.cons_append, List.nil_append]
  exact .of_tag written (clean_openingParts o) (by decide)

theorem laid_background (background : Text) :
    Laid (backgroundElement background)
      (if background.isEmpty then [] else [backgroundParts background]) := by
  unfold backgroundElement
  split
  · exact .blank (by decide)
  · have start : utf8 "  <rect width=\"100%\" height=\"100%\" fill=\"" =
        utf8 "  " ++ 0x3C :: (utf8 "rect width=" ++ 0x22 :: (utf8 "100%" ++
          0x22 :: (utf8 " height=" ++ 0x22 :: (utf8 "100%" ++
            0x22 :: (utf8 " fill=" ++ [0x22]))))) := by
      decide
    have finish : utf8 "\"/>\n" = 0x22 :: (utf8 "/" ++ 0x3E :: utf8 "\n") := by decide
    have written : utf8 "  <rect width=\"100%\" height=\"100%\" fill=\"" ++ escape background
          ++ utf8 "\"/>\n" =
        utf8 "  " ++ 0x3C ::
          (Text.join [0x22] (backgroundParts background) ++ 0x3E :: utf8 "\n") := by
      simp only [backgroundParts, Text.join_cons_cons, Text.join, start, finish, List.append_assoc,
        List.cons_append, List.nil_append]
    exact .of_tag written (clean_backgroundParts _) (by decide)

theorem laid_line (s : Segment) : Laid (lineElement s) [lineParts s] := by
  have start : utf8 "  <line x1=\"" = utf8 "  " ++ 0x3C :: (utf8 "line x1=" ++ [0x22]) := by decide
  have y1 : utf8 "\" y1=\"" = 0x22 :: (utf8 " y1=" ++ [0x22]) := by decide
  have x2 : utf8 "\" x2=\"" = 0x22 :: (utf8 " x2=" ++ [0x22]) := by decide
  have y2 : utf8 "\" y2=\"" = 0x22 :: (utf8 " y2=" ++ [0x22]) := by decide
  have stroke : utf8 "\" stroke=\"" = 0x22 :: (utf8 " stroke=" ++ [0x22]) := by decide
  have width : utf8 "\" stroke-width=\"" = 0x22 :: (utf8 " stroke-width=" ++ [0x22]) := by decide
  have finish : utf8 "\" stroke-linecap=\"round\"/>\n" =
      0x22 :: (utf8 " stroke-linecap=" ++ 0x22 :: (utf8 "round" ++
        0x22 :: (utf8 "/" ++ 0x3E :: utf8 "\n"))) := by
    decide
  have written : lineElement s =
      utf8 "  " ++ 0x3C :: (Text.join [0x22] (lineParts s) ++ 0x3E :: utf8 "\n") := by
    simp only [lineElement, lineParts, Text.join_cons_cons, Text.join, start, y1, x2, y2, stroke,
      width, finish, List.append_assoc, List.cons_append, List.nil_append]
  exact .of_tag written (clean_lineParts s) (by decide)

theorem laid_cursor (t : Turtle) : Laid (cursorElement t) [cursorParts t] := by
  have start : utf8 "  <polygon points=\"0,-10 7,7 -7,7\" fill=\"" =
      utf8 "  " ++ 0x3C :: (utf8 "polygon points=" ++ 0x22 :: (utf8 "0,-10 7,7 -7,7" ++
        0x22 :: (utf8 " fill=" ++ [0x22]))) := by
    decide
  have move : utf8 "\" transform=\"translate(" =
      0x22 :: (utf8 " transform=" ++ 0x22 :: utf8 "translate(") := by
    decide
  have finish : utf8 ")\"/>\n" = utf8 ")" ++ 0x22 :: (utf8 "/" ++ 0x3E :: utf8 "\n") := by decide
  have written : cursorElement t =
      utf8 "  " ++ 0x3C :: (Text.join [0x22] (cursorParts t) ++ 0x3E :: utf8 "\n") := by
    simp only [cursorElement, cursorParts, Text.join_cons_cons, Text.join, start, move, finish,
      List.append_assoc, List.cons_append, List.nil_append]
  exact .of_tag written (clean_cursorParts t) (by decide)

theorem laid_svg (t : Turtle) : Laid t.svg (drawingParts t) := by
  have cursor : Laid (if t.options.showCursor then cursorElement t else [])
      (if t.options.showCursor then [cursorParts t] else []) := by
    split
    · exact laid_cursor t
    · exact .blank (by decide)
  have closing : Laid (utf8 "</svg>\n") [[utf8 "/svg"]] := by
    have written : utf8 "</svg>\n" =
        [] ++ 0x3C :: (Text.join [0x22] [utf8 "/svg"] ++ 0x3E :: utf8 "\n") := by
      decide
    exact .of_tag written (by decide) (by decide)
  rw [svg, List.append_assoc, List.append_assoc, List.append_assoc]
  exact (laid_opening t.options).append ((laid_background t.options.background).append
    ((Laid.flatMap laid_line t.segments.toList).append (cursor.append closing)))

@[simp] theorem name_openingParts (o : Options) :
    name (Text.join [0x22] (openingParts o)) = utf8 "svg" :=
  rfl

@[simp] theorem name_backgroundParts (background : Text) :
    name (Text.join [0x22] (backgroundParts background)) = utf8 "rect" :=
  rfl

@[simp] theorem name_lineParts (s : Segment) :
    name (Text.join [0x22] (lineParts s)) = utf8 "line" :=
  rfl

@[simp] theorem name_cursorParts (t : Turtle) :
    name (Text.join [0x22] (cursorParts t)) = utf8 "polygon" :=
  rfl

theorem names_svg (t : Turtle) :
    (tags t.svg).map name = utf8 "svg" ::
      ((if t.options.background.isEmpty then [] else [utf8 "rect"])
        ++ (List.replicate t.segments.size (utf8 "line")
          ++ ((if t.options.showCursor then [utf8 "polygon"] else []) ++ [utf8 "/svg"]))) := by
  have closing : name (utf8 "/svg") = utf8 "/svg" := by decide
  rw [(laid_svg t).tags_eq, drawingParts]
  split <;> split <;> simp [Text.join, closing, Function.comp_def, List.map_const']

theorem values_svg (t : Turtle) (key : String) :
    (values t.svg "rect" key = if t.options.background.isEmpty then []
        else [valueIn (utf8 key) (backgroundParts t.options.background)]) ∧
      (values t.svg "line" key =
        t.segments.toList.map fun s => valueIn (utf8 key) (lineParts s)) ∧
      (values t.svg "polygon" key = if t.options.showCursor then
        [valueIn (utf8 key) (cursorParts t)] else []) := by
  simp only [(laid_svg t).values_eq, drawingParts]
  -- Of the five kinds of elements, the filter for one name keeps one kind and drops the others.
  refine ⟨?_, ?_, ?_⟩ <;> split <;> split <;>
    simp +decide [Text.join, List.filter_map, Function.comp_def]

theorem length_drawingParts (t : Turtle) :
    (drawingParts t).length = 2 + (if t.options.background.isEmpty then 0 else 1)
      + t.segments.size + (if t.options.showCursor then 1 else 0) := by
  simp only [drawingParts, List.length_cons, List.length_append, List.length_map,
    Array.length_toList, List.length_nil]
  split <;> split <;> simp only [List.length_cons, List.length_nil] <;> omega

/-- A drawing is read as it was drawn. Whatever texts the background and the colours are, its
document has a pair of angle brackets around it at the start and at the end, and one for each
element: the background if there is one, a line for each segment in the order they were drawn, and
the turtle if it is shown. With its references replaced, what stands between the quotes of a colour
is the colour. -/
theorem drawings_are_read_as_drawn (t : Turtle) (names : Names) :
    let elements := 2 + (if t.options.background.isEmpty then 0 else 1) + t.segments.size
      + (if t.options.showCursor then 1 else 0)
    let read (element key : String) := (values t.svg element key).map (Option.map (unescape names))
    let lines (key : String) (written : Segment → Text) :=
      values t.svg "line" key = t.segments.toList.map fun s => some (written s)
    t.svg.count 0x3C = elements ∧ t.svg.count 0x3E = elements ∧
      ((tags t.svg).map name = utf8 "svg" ::
        ((if t.options.background.isEmpty then [] else [utf8 "rect"])
          ++ (List.replicate t.segments.size (utf8 "line")
            ++ ((if t.options.showCursor then [utf8 "polygon"] else []) ++ [utf8 "/svg"])))) ∧
      (lines "x1" (coordinate ·.origin.x) ∧ lines "y1" (coordinate ·.origin.y) ∧
        lines "x2" (coordinate ·.target.x) ∧ lines "y2" (coordinate ·.target.y) ∧
        lines "stroke-width" (coordinate ·.width)) ∧
      (read "rect" "fill" = if t.options.background.isEmpty then []
        else [some t.options.background]) ∧
      (read "line" "stroke" = t.segments.toList.map fun s => some s.color) ∧
      (read "polygon" "fill" = if t.options.showCursor then [some t.color] else []) := by
  intro elements read lines
  have color : ∀ text, (some (escape text)).map (unescape names) = some text := by
    intro text
    rw [Option.map_some, unescape_escape]
  obtain ⟨rect, -, polygon⟩ := values_svg t "fill"
  have stroke := (values_svg t "stroke").2.1
  refine ⟨?_, ?_, names_svg t, ?_, ?_, ?_, ?_⟩
  · rw [(laid_svg t).count (.inl rfl), length_drawingParts]
  · rw [(laid_svg t).count (.inr rfl), length_drawingParts]
  · exact ⟨(values_svg t "x1").2.1, (values_svg t "y1").2.1, (values_svg t "x2").2.1,
      (values_svg t "y2").2.1, (values_svg t "stroke-width").2.1⟩
  · simp only [read, rect]
    split
    · rfl
    · exact congrArg (fun v => [v]) (color t.options.background)
  · simp only [read, stroke, List.map_map]
    apply List.map_congr_left
    intro s _
    exact color s.color
  · simp only [read, polygon]
    split
    · exact congrArg (fun v => [v]) (color t.color)
    · rfl

/-- Quotes, brackets and what looks like a reference in the background and in the colours. -/
theorem drawings_are_read_as_drawn_hostile :
    let hostile := utf8 "red\"/><script>&lt;"
    let t : Turtle := { home { Options.standard with background := hostile } with
      color := utf8 "&#34;"
      segments := #[⟨⟨0, 0⟩, ⟨1, 0⟩, hostile, 2⟩, ⟨⟨1, 0⟩, ⟨1, 1⟩, utf8 "'&amp;'", 2⟩] }
    let read (element key : String) :=
      (values t.svg element key).map (Option.map (unescape .predefined))
    t.svg.count 0x3C = 6 ∧ t.svg.count 0x3E = 6 ∧ read "rect" "fill" = [some hostile] ∧
      read "line" "stroke" = [some hostile, some (utf8 "'&amp;'")] ∧
      read "polygon" "fill" = [some (utf8 "&#34;")] := by
  intro hostile t read
  obtain ⟨opened, closed, -, -, rect, lines, polygon⟩ := drawings_are_read_as_drawn t .predefined
  exact ⟨opened, closed, rect, lines, polygon⟩

end Turtle

end TurtleLogo
