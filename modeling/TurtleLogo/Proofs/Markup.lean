import Mathlib
import TurtleLogo.Turtle.Drawing
import TurtleLogo.Number.Literal
import TurtleLogo.Text.Glyph

/-!
# Marked-up documents

How a document with tags is read: its tags stand between angle brackets, their attributes between
quotes, and characters may be written as references, by a name or by a number. A text that is
written as the value of an attribute has none of the bytes that mark up a document, and reading its
references gives it back. So a document made of tags with such values is read as these tags.
-/

set_option autoImplicit false

namespace TurtleLogo

namespace Text

/-! ## Texts between separators -/

variable {sep : UInt8}

theorem splitAt_of_notMem {t : Text} (free : sep ∉ t) : splitAt sep t = [t] := by
  induction t with
  | nil => rfl
  | cons b rest ih =>
    rw [List.mem_cons, not_or] at free
    have other : (b == sep) = false := by simpa using Ne.symm free.1
    simp [splitAt, other, ih free.2]

theorem splitAt_append {t : Text} (free : sep ∉ t) (more : Text) :
    splitAt sep (t ++ sep :: more) = t :: splitAt sep more := by
  induction t with
  | nil => simp [splitAt]
  | cons b rest ih =>
    rw [List.mem_cons, not_or] at free
    have other : (b == sep) = false := by simpa using Ne.symm free.1
    simp [splitAt, other, ih free.2]

theorem join_cons_cons (part next : Text) (others : List Text) :
    join [sep] (part :: next :: others) = part ++ sep :: join [sep] (next :: others) := by
  simp [join]

theorem splitAt_join {parts : List Text} (free : ∀ part ∈ parts, sep ∉ part)
    (nonempty : parts ≠ []) : splitAt sep (join [sep] parts) = parts := by
  induction parts with
  | nil => exact absurd rfl nonempty
  | cons part parts ih =>
    cases parts with
    | nil => exact splitAt_of_notMem (free part (by simp))
    | cons next others =>
      rw [join_cons_cons, splitAt_append (free part (by simp))]
      congr 1
      apply ih
      · intro other member
        exact free other (List.mem_cons_of_mem part member)
      · simp

end Text

namespace Markup

/-! ## Tags and their attributes -/

def tags : Text → List Text
  | [] => []
  | b :: rest => if b == 0x3C then rest.takeWhile (· != 0x3E) :: tags rest else tags rest

def name (tag : Text) : Text :=
  tag.takeWhile (· != 0x20)

/-- The value of an attribute among the parts of a tag that its quotes separate. A value stands
between two quotes, behind the name of its attribute and an equals sign. -/
def valueIn (key : Text) : List Text → Option Text
  | label :: value :: next :: rest =>
    if (utf8 " " ++ key ++ utf8 "=").isSuffixOf label then some value else valueIn key (next :: rest)
  | _ => none

def value? (key tag : Text) : Option Text :=
  valueIn key (Text.splitAt 0x22 tag)

def values (document : Text) (element key : String) : List (Option Text) :=
  ((tags document).filter fun tag => name tag == utf8 element).map (value? (utf8 key))

/-! ## References -/

/-- The characters that references by name stand for. A name may end with a semicolon. Readers know
more or fewer of them, but all know the ampersand and the angle brackets. -/
structure Names where
  text? : Text → Option Text
  ampersand : text? (utf8 "amp;") = some (utf8 "&")
  less : text? (utf8 "lt;") = some (utf8 "<")
  greater : text? (utf8 "gt;") = some (utf8 ">")

def Names.predefined : Names where
  text? name :=
    if name = utf8 "amp;" then some (utf8 "&")
    else if name = utf8 "lt;" then some (utf8 "<")
    else if name = utf8 "gt;" then some (utf8 ">")
    else if name = utf8 "quot;" then some (utf8 "\"")
    else if name = utf8 "apos;" then some (utf8 "'")
    else none
  ampersand := rfl
  less := rfl
  greater := rfl

def westernCodes : List Nat :=
  [0x20AC, 0x81, 0x201A, 0x192, 0x201E, 0x2026, 0x2020, 0x2021, 0x2C6, 0x2030, 0x160, 0x2039, 0x152,
    0x8D, 0x17D, 0x8F, 0x90, 0x2018, 0x2019, 0x201C, 0x201D, 0x2022, 0x2013, 0x2014, 0x2DC, 0x2122,
    0x161, 0x203A, 0x153, 0x9D, 0x17E, 0x178]

def referenced (number : Nat) : Nat :=
  if 0x80 ≤ number ∧ number ≤ 0x9F then westernCodes.getD (number - 0x80) Glyph.replacement
  else if number = 0 ∨ (0xD800 ≤ number ∧ number ≤ 0xDFFF) ∨ 0x10FFFF < number then
    Glyph.replacement
  else number

def semicolonAt (t : Text) (place : Nat) : Nat :=
  if t[place]? = some 0x3B then 1 else 0

def numbered? (isDigit : UInt8 → Bool) (base : Nat) (t : Text) : Option (Text × Nat) :=
  let digits := t.takeWhile isDigit
  if digits.isEmpty then none
  else
    let number := digits.foldl (fun n b => n * base + Number.hexDigitValue b) 0
    some (Glyph.encode (referenced number), digits.length + semicolonAt t digits.length)

def isLetter (b : UInt8) : Bool :=
  Text.isLower b || Text.isUpper b || Text.isDigit b

def named? (names : Names) (t : Text) : Option (Text × Nat) :=
  let letters := t.takeWhile isLetter
  let longest := letters.length + semicolonAt t letters.length
  (List.range (longest + 1)).reverse.findSome? fun n =>
    (names.text? (t.take n)).map fun text => (text, n)

def reference? (names : Names) : Text → Option (Text × Nat)
  | 0x23 :: 0x78 :: rest => (numbered? Number.isHexDigit 16 rest).map fun (text, n) => (text, n + 2)
  | 0x23 :: 0x58 :: rest => (numbered? Number.isHexDigit 16 rest).map fun (text, n) => (text, n + 2)
  | 0x23 :: rest => (numbered? Text.isDigit 10 rest).map fun (text, n) => (text, n + 1)
  | rest => named? names rest

/-- Replaces the references of a text behind its first `skip` bytes. An ampersand that starts none
stays. -/
def unescapeAfter (names : Names) : (skip : Nat) → Text → Text
  | _, [] => []
  | skip + 1, _ :: rest => unescapeAfter names skip rest
  | 0, b :: rest =>
    match if b == 0x26 then reference? names rest else none with
    | some (text, length) => text ++ unescapeAfter names length rest
    | none => b :: unescapeAfter names 0 rest

def unescape (names : Names) (t : Text) : Text :=
  unescapeAfter names 0 t

section References

variable (names : Names)

theorem unescapeAfter_eq (skip : Nat) (t : Text) :
    unescapeAfter names skip t = unescape names (t.drop skip) := by
  induction skip generalizing t with
  | zero => rfl
  | succ skip ih =>
    cases t with
    | nil => rfl
    | cons b rest => exact ih rest

theorem unescape_plain {b : UInt8} (plain : b ≠ 0x26) (rest : Text) :
    unescape names (b :: rest) = b :: unescape names rest := by
  have noReference : (b == 0x26) = false := by simpa using plain
  simp [unescape, unescapeAfter, noReference]

theorem unescape_reference (written : Text) {b : UInt8} {rest : Text}
    (found : reference? names (written ++ rest) = some ([b], written.length)) :
    unescape names (0x26 :: (written ++ rest)) = b :: unescape names rest := by
  have first : unescape names (0x26 :: (written ++ rest)) =
      b :: unescapeAfter names written.length (written ++ rest) := by
    simp [unescape, unescapeAfter, found]
  rw [first, unescapeAfter_eq, List.drop_left]

theorem named?_of_closed (known : Text) {text : Text} (letters : known.all isLetter = true)
    (found : names.text? (known ++ utf8 ";") = some text) (rest : Text) :
    named? names (known ++ utf8 ";" ++ rest) = some (text, known.length + 1) := by
  have closed : known ++ utf8 ";" ++ rest = known ++ 0x3B :: rest := List.append_assoc ..
  have run : (known ++ 0x3B :: rest).takeWhile isLetter = known := by
    rw [List.takeWhile_append_of_pos (List.all_eq_true.mp letters),
      List.takeWhile_cons_of_neg (by decide), List.append_nil]
  have semicolon : semicolonAt (known ++ 0x3B :: rest) known.length = 1 := by
    simp [semicolonAt]
  have whole : (known ++ 0x3B :: rest).take (known.length + 1) = known ++ utf8 ";" := by
    rw [List.take_length_add_append]
    rfl
  simp only [closed, named?, run, semicolon]
  rw [List.range_succ, List.reverse_append, List.reverse_singleton, List.singleton_append,
    List.findSome?_cons, whole, found]
  rfl

theorem unescape_escapeByte (b : UInt8) (rest : Text) :
    unescape names (Turtle.escapeByte b ++ rest) = b :: unescape names rest := by
  unfold Turtle.escapeByte
  split_ifs with ampersand apostrophe less greater quote
  · obtain rfl := eq_of_beq ampersand
    exact unescape_reference names (utf8 "amp;")
      (named?_of_closed names (utf8 "amp") rfl names.ampersand rest)
  · obtain rfl := eq_of_beq apostrophe
    exact unescape_reference names (utf8 "#39;") rfl
  · obtain rfl := eq_of_beq less
    exact unescape_reference names (utf8 "lt;")
      (named?_of_closed names (utf8 "lt") rfl names.less rest)
  · obtain rfl := eq_of_beq greater
    exact unescape_reference names (utf8 "gt;")
      (named?_of_closed names (utf8 "gt") rfl names.greater rest)
  · obtain rfl := eq_of_beq quote
    exact unescape_reference names (utf8 "#34;") rfl
  · have plain : b ≠ 0x26 := by simpa using ampersand
    exact unescape_plain names plain rest

theorem unescape_escape (t : Text) : unescape names (Turtle.escape t) = t := by
  induction t with
  | nil => rfl
  | cons b rest ih =>
    rw [Turtle.escape, List.flatMap_cons, unescape_escapeByte]
    exact congrArg (b :: ·) ih

end References

/-! ## Documents made of tags -/

def isMark (b : UInt8) : Bool :=
  b == 0x3C || b == 0x3E || b == 0x22

def Unmarked (t : Text) : Prop :=
  ∀ b ∈ t, isMark b = false

instance (t : Text) : Decidable (Unmarked t) :=
  decidable_of_iff ((t.all fun b => !isMark b) = true) (by simp [Unmarked])

/-- A document that has the given tags and no others. Each tag is given by its parts between
quotes. -/
inductive Laid : Text → List (List Text) → Prop
  | blank {t : Text} (unmarked : Unmarked t) : Laid t []
  | tag {before after : Text} {parts : List Text} {others : List (List Text)}
      (unmarked : Unmarked before) (clean : ∀ part ∈ parts, Unmarked part)
      (behind : Laid after others) :
      Laid (before ++ 0x3C :: (Text.join [0x22] parts ++ 0x3E :: after)) (parts :: others)

theorem Unmarked.notMem {t : Text} (unmarked : Unmarked t) {b : UInt8} (mark : isMark b = true) :
    b ∉ t := by
  intro member
  rw [unmarked b member] at mark
  cases mark

@[simp] theorem unmarked_append {s t : Text} : Unmarked (s ++ t) ↔ Unmarked s ∧ Unmarked t :=
  List.forall_mem_append

theorem unmarked_escapeByte (b : UInt8) : Unmarked (Turtle.escapeByte b) := by
  unfold Turtle.escapeByte
  split_ifs with ampersand apostrophe less greater quote
  · decide
  · decide
  · decide
  · decide
  · decide
  · have plain : isMark b = false := by simp_all [isMark]
    intro c member
    rwa [List.mem_singleton.mp member]

@[simp] theorem unmarked_escape (t : Text) : Unmarked (Turtle.escape t) := by
  intro b member
  obtain ⟨c, -, written⟩ := List.mem_flatMap.mp member
  exact unmarked_escapeByte c b written

theorem mem_join {sep b : UInt8} {parts : List Text} (member : b ∈ Text.join [sep] parts) :
    b = sep ∨ ∃ part ∈ parts, b ∈ part := by
  induction parts with
  | nil => cases member
  | cons part parts ih =>
    cases parts with
    | nil => exact .inr ⟨part, by simp, member⟩
    | cons next others =>
      rw [Text.join_cons_cons, List.mem_append, List.mem_cons] at member
      rcases member with here | rfl | later
      · exact .inr ⟨part, by simp, here⟩
      · exact .inl rfl
      · obtain same | ⟨other, known, inside⟩ := ih later
        · exact .inl same
        · exact .inr ⟨other, List.mem_cons_of_mem part known, inside⟩

theorem notMem_join {parts : List Text} (clean : ∀ part ∈ parts, Unmarked part) {b : UInt8}
    (mark : isMark b = true) (bracket : b ≠ 0x22) : b ∉ Text.join [0x22] parts := by
  intro member
  obtain same | ⟨part, known, inside⟩ := mem_join member
  · exact bracket same
  · exact (clean part known).notMem mark inside

theorem tags_append {t : Text} (free : 0x3C ∉ t) (rest : Text) : tags (t ++ rest) = tags rest := by
  induction t with
  | nil => rfl
  | cons b t ih =>
    rw [List.mem_cons, not_or] at free
    have other : (b == 0x3C) = false := by simpa using Ne.symm free.1
    simp [tags, other, ih free.2]

namespace Laid

variable {first second document : Text} {parts : List (List Text)}

theorem of_tag {before after : Text} {tag : List Text}
    (written : document = before ++ 0x3C :: (Text.join [0x22] tag ++ 0x3E :: after))
    (clean : ∀ part ∈ tag, Unmarked part) (unmarked : Unmarked before ∧ Unmarked after) :
    Laid document [tag] := by
  rw [written]
  exact .tag unmarked.1 clean (.blank unmarked.2)

theorem prepend {t : Text} (unmarked : Unmarked t) (laid : Laid document parts) :
    Laid (t ++ document) parts := by
  cases laid with
  | blank rest => exact .blank (unmarked_append.mpr ⟨unmarked, rest⟩)
  | tag before clean behind =>
    rw [← List.append_assoc]
    exact .tag (unmarked_append.mpr ⟨unmarked, before⟩) clean behind

theorem append {others : List (List Text)} (laid : Laid first parts) (behind : Laid second others) :
    Laid (first ++ second) (parts ++ others) := by
  induction laid with
  | blank unmarked => exact behind.prepend unmarked
  | tag unmarked clean _ ih =>
    simp only [List.append_assoc, List.cons_append]
    exact .tag unmarked clean ih

theorem flatMap {α : Type} {write : α → Text} {tag : α → List Text}
    (each : ∀ a, Laid (write a) [tag a]) (all : List α) :
    Laid (all.flatMap write) (all.map tag) := by
  induction all with
  | nil => exact .blank (by simp [Unmarked])
  | cons a others ih => exact (each a).append ih

theorem clean (laid : Laid document parts) : ∀ tag ∈ parts, ∀ part ∈ tag, Unmarked part := by
  induction laid with
  | blank _ => simp
  | tag _ clean _ ih => exact List.forall_mem_cons.mpr ⟨clean, ih⟩

theorem count (laid : Laid document parts) {b : UInt8} (mark : b = 0x3C ∨ b = 0x3E) :
    document.count b = parts.length := by
  have marks : isMark b = true := by rcases mark with rfl | rfl <;> rfl
  have bracket : b ≠ 0x22 := by rcases mark with rfl | rfl <;> decide
  induction laid with
  | blank unmarked => exact List.count_eq_zero.mpr (unmarked.notMem marks)
  | tag unmarked clean _ ih =>
    have before := List.count_eq_zero.mpr (unmarked.notMem marks)
    have inside := List.count_eq_zero.mpr (notMem_join clean marks bracket)
    rw [List.count_append, List.count_cons, List.count_append, List.count_cons, before, inside, ih,
      List.length_cons]
    rcases mark with rfl | rfl <;> simp

theorem tags_eq (laid : Laid document parts) : tags document = parts.map (Text.join [0x22]) := by
  induction laid with
  | blank unmarked =>
    have untagged := tags_append (unmarked.notMem (b := 0x3C) rfl) []
    rwa [List.append_nil] at untagged
  | @tag before after parts others unmarked clean _ ih =>
    have body : ∀ b ∈ Text.join [0x22] parts, (b != 0x3E) = true := by
      intro b member
      have other : b ≠ 0x3E := by
        intro same
        exact notMem_join clean (b := 0x3E) rfl (by decide) (same ▸ member)
      simpa using other
    have inside : (Text.join [0x22] parts ++ 0x3E :: after).takeWhile (· != 0x3E) =
        Text.join [0x22] parts := by
      rw [List.takeWhile_append_of_pos body, List.takeWhile_cons_of_neg (by decide),
        List.append_nil]
    rw [tags_append (unmarked.notMem (b := 0x3C) rfl), tags, if_pos (by decide), inside,
      tags_append (notMem_join clean (b := 0x3C) rfl (by decide)), tags, if_neg (by decide), ih,
      List.map_cons]

end Laid

theorem value?_join (key : Text) {parts : List Text} (clean : ∀ part ∈ parts, Unmarked part) :
    value? key (Text.join [0x22] parts) = valueIn key parts := by
  cases parts with
  | nil => rfl
  | cons first others =>
    have free : ∀ part ∈ first :: others, 0x22 ∉ part := by
      intro part member
      exact (clean part member).notMem rfl
    rw [value?, Text.splitAt_join free (List.cons_ne_nil first others)]

theorem Laid.values_eq {document : Text} {parts : List (List Text)} (laid : Laid document parts)
    (element key : String) :
    values document element key =
      (parts.filter fun tag => name (Text.join [0x22] tag) == utf8 element).map
        (valueIn (utf8 key)) := by
  rw [values, laid.tags_eq, List.filter_map, List.map_map]
  apply List.map_congr_left
  intro tag member
  exact value?_join (utf8 key) (laid.clean tag (List.mem_of_mem_filter member))

end Markup

end TurtleLogo
