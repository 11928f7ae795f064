import TurtleLogo.Number.Literal
import TurtleLogo.Proofs.Trimming
import TurtleLogo.Server.Response

/-!
# JSON texts read back

A reader for strings, for arrays of strings, and for the fields of objects. What is written is read
back, apart from bytes that are no characters: they come back as the replacement character, so that
only legible texts come back as they were.
-/

set_option autoImplicit false

namespace TurtleLogo

namespace Glyph

/-! ## Codes -/

def InRange : Glyph → Prop
  | .char code => code ≤ 0x10FFFF
  | .stray _ => True

theorem le_of_sequence? {a : UInt8} {rest : Text} {code more : Nat}
    (found : sequence? a rest = some (code, more)) : code ≤ 0x10FFFF := by
  have tail {b : UInt8} (continuation : isContinuation b = true) : tailBits b ≤ 0x3F := by
    have bounds := bounds_of_isContinuation continuation
    unfold tailBits
    omega
  simp only [sequence?, Bool.and_eq_true, decide_eq_true_eq, UInt8.le_iff_toNat_le,
    UInt8.lt_iff_toNat_lt, UInt8.reduceToNat] at found
  split_ifs at found with one two three four
  · simp only [Option.some.injEq, Prod.mk.injEq] at found
    omega
  · rcases rest with _ | ⟨b, after⟩
    · cases found
    · simp only [pair?, Option.ite_none_right_eq_some, Option.some.injEq, Prod.mk.injEq] at found
      have low := tail found.1
      omega
  · rcases rest with _ | ⟨b, _ | ⟨c, after⟩⟩
    · cases found
    · cases found
    · simp only [triple?, Option.ite_none_right_eq_some, Option.some.injEq, Prod.mk.injEq,
        Bool.and_eq_true] at found
      have high := tail found.1.1.1.1
      have low := tail found.1.1.1.2
      omega
  · rcases rest with _ | ⟨b, _ | ⟨c, _ | ⟨d, after⟩⟩⟩
    · cases found
    · cases found
    · cases found
    · simp only [quadruple?, Option.ite_none_right_eq_some, Option.some.injEq, Prod.mk.injEq,
        Bool.and_eq_true, decide_eq_true_eq] at found
      exact le_of_eq_of_le found.2.1.symm found.1.2

theorem inRange_readAfter (skip : Nat) (t : Text) : ∀ g ∈ readAfter skip t, g.InRange := by
  induction t generalizing skip with
  | nil => simp [readAfter]
  | cons b rest ih =>
    cases skip with
    | succ skip => exact ih skip
    | zero =>
      rw [readAfter]
      split
      · rename_i code more found
        simp only [List.forall_mem_cons]
        exact ⟨le_of_sequence? found, ih more⟩
      · simp only [List.forall_mem_cons]
        exact ⟨trivial, ih 0⟩

/-- The bytes of a character are its code, or none of them is ASCII. -/
theorem byte_of_mem_encode {code : Nat} (inRange : code ≤ 0x10FFFF) {b : UInt8}
    (member : b ∈ encode code) : b.toNat = code ∨ 0x80 ≤ b.toNat := by
  simp only [encode] at member
  split_ifs at member <;> simp only [List.mem_cons, List.not_mem_nil, or_false] at member
  all_goals
    rcases member with rfl | rfl | rfl | rfl <;> simp only [UInt8.toNat_ofNat'] <;> omega

end Glyph

namespace Text

namespace Json

/-! ## Strings -/

def kept : Glyph → Text
  | .stray _ => Glyph.encode Glyph.replacement
  | .char code => Glyph.encode code

/-- A text with a replacement for every byte that is no character. -/
def legible (t : Text) : Text :=
  (Glyph.read t).flatMap kept

def shorthands : List (UInt8 × UInt8) :=
  [(0x22, 0x22), (0x5C, 0x5C), (0x2F, 0x2F), (0x62, 0x08), (0x66, 0x0C), (0x6E, 0x0A), (0x72, 0x0D),
    (0x74, 0x09)]

/-- What an escape stands for, and its length, both behind the backslash. Surrogates, of which two
would make a character, are not read. -/
def escape? : Text → Option (Text × Nat)
  | [] => none
  | e :: rest =>
    if e = 0x75 then
      let digits := rest.take 4
      let code := digits.foldl (fun n b => n * 16 + Number.hexDigitValue b) 0
      if digits.length = 4 ∧ digits.all Number.isHexDigit ∧ ¬(0xD800 ≤ code ∧ code ≤ 0xDFFF) then
        some (Glyph.encode code, 5)
      else none
    else (shorthands.lookup e).map fun b => ([b], 1)

/-- A string from behind its first quote, after `skip` bytes, and what stands behind its last. -/
def readFrom : (skip : Nat) → Text → Option (Text × Text)
  | _, [] => none
  | skip + 1, _ :: rest => readFrom skip rest
  | 0, b :: rest =>
    if b = 0x22 then some ([], rest)
    else if b = 0x5C then
      match escape? rest with
      | none => none
      | some (t, length) => (readFrom length rest).map fun (u, behind) => (t ++ u, behind)
    else if b < 0x20 then none
    else (readFrom 0 rest).map fun (u, behind) => (b :: u, behind)

def readString? : Text → Option (Text × Text)
  | 0x22 :: rest => readFrom 0 rest
  | _ => none

theorem readFrom_eq (skip : Nat) (t : Text) : readFrom skip t = readFrom 0 (t.drop skip) := by
  induction t generalizing skip with
  | nil => simp [readFrom]
  | cons b rest ih =>
    cases skip with
    | zero => rfl
    | succ skip => exact ih skip

theorem readFrom_of_escape {rest t : Text} {length : Nat} (escape : escape? rest = some (t, length)) :
    readFrom 0 (0x5C :: rest)
      = (readFrom 0 (rest.drop length)).map fun (u, behind) => (t ++ u, behind) := by
  rw [← readFrom_eq, readFrom]
  simp [escape]

theorem readFrom_of_shorthand {e b : UInt8} (letter : e ≠ 0x75) (short : shorthands.lookup e = some b)
    (rest : Text) :
    readFrom 0 (0x5C :: e :: rest)
      = (readFrom 0 rest).map fun (u, behind) => (b :: u, behind) := by
  have escape : escape? (e :: rest) = some ([b], 1) := by simp [escape?, letter, short]
  exact readFrom_of_escape escape

theorem readFrom_of_plain {bytes : Text} (rest : Text)
    (plain : ∀ b ∈ bytes, b ≠ 0x22 ∧ b ≠ 0x5C ∧ ¬b < 0x20) :
    readFrom 0 (bytes ++ rest)
      = (readFrom 0 rest).map fun (u, behind) => (bytes ++ u, behind) := by
  induction bytes with
  | nil => simp
  | cons b bytes ih =>
    obtain ⟨⟨quote, backslash, control⟩, others⟩ := List.forall_mem_cons.mp plain
    rw [List.cons_append, readFrom, if_neg quote, if_neg backslash, if_neg control, ih others]
    cases readFrom 0 rest <;> rfl

/-- An escape by number is read as the character of that number. -/
theorem escape?_of_hex {code : Nat} (small : code < 0xD800) (rest : Text) :
    escape? (0x75 :: (hex 4 code ++ rest)) = some (Glyph.encode code, 5) := by
  have digit : ∀ d, d < 16 → Number.isHexDigit (digitByte d) = true ∧
      Number.hexDigitValue (digitByte d) = d := by decide
  have digits (n : Nat) := digit (n % 16) (Nat.mod_lt n (by omega))
  have value : ((code / 16 / 16 / 16 % 16 * 16 + code / 16 / 16 % 16) * 16 + code / 16 % 16) * 16
      + code % 16 = code := by omega
  simp [escape?, hex, digits, value]
  omega

theorem readFrom_encode {code : Nat} (inRange : code ≤ 0x10FFFF) (quote : code ≠ 0x22)
    (backslash : code ≠ 0x5C) (control : ¬code < 0x20) (rest : Text) :
    readFrom 0 (Glyph.encode code ++ rest)
      = (readFrom 0 rest).map fun (u, behind) => (Glyph.encode code ++ u, behind) := by
  apply readFrom_of_plain
  intro b member
  have byte := Glyph.byte_of_mem_encode inRange member
  simp only [ne_eq, ← UInt8.toNat_inj, UInt8.lt_iff_toNat_lt, UInt8.reduceToNat]
  omega

theorem readFrom_numbered {code : Nat} (small : code < 0xD800) (rest : Text) :
    readFrom 0 (numbered code ++ rest)
      = (readFrom 0 rest).map fun (u, behind) => (Glyph.encode code ++ u, behind) :=
  readFrom_of_escape (escape?_of_hex small rest)

/-- What was written for a glyph is read as what is kept of it. -/
theorem readFrom_escaped {g : Glyph} (inRange : g.InRange) (rest : Text) :
    readFrom 0 (escaped g ++ rest)
      = (readFrom 0 rest).map fun (u, behind) => (kept g ++ u, behind) := by
  cases g with
  | stray b => exact readFrom_encode (by decide) (by decide) (by decide) (by decide) rest
  | char code =>
    unfold escaped
    split
    case h_1 => contradiction
    case h_9 same =>
      cases same
      exact readFrom_numbered (show 0x2028 < 0xD800 by decide) rest
    case h_10 same =>
      cases same
      exact readFrom_numbered (show 0x2029 < 0xD800 by decide) rest
    case h_11 quote backslash _ _ _ _ _ _ _ same =>
      cases same
      split_ifs with special <;>
        simp only [Bool.or_eq_true, decide_eq_true_eq, beq_iff_eq] at special
      · exact readFrom_numbered (by omega) rest
      · exact readFrom_encode inRange quote backslash (by omega) rest
    all_goals
      rename_i same
      cases same
      exact readFrom_of_shorthand (by decide) (by decide) rest

theorem readFrom_flatMap {glyphs : List Glyph} (inRange : ∀ g ∈ glyphs, g.InRange) (rest : Text) :
    readFrom 0 (glyphs.flatMap escaped ++ 0x22 :: rest) = some (glyphs.flatMap kept, rest) := by
  induction glyphs with
  | nil => rfl
  | cons g glyphs ih =>
    obtain ⟨first, others⟩ := List.forall_mem_cons.mp inRange
    rw [List.flatMap_cons, List.append_assoc, readFrom_escaped first, ih others]
    rfl

theorem readString?_writeString (t rest : Text) :
    readString? (writeString t ++ rest) = some (legible t, rest) := by
  have body : writeString t ++ rest
      = 0x22 :: ((Glyph.read t).flatMap escaped ++ 0x22 :: rest) := by
    simp only [writeString, List.append_assoc]
    rfl
  rw [body]
  exact readFrom_flatMap (Glyph.inRange_readAfter 0 t) rest

theorem legible_eq_self {t : Text} (characters : ∀ b, Glyph.stray b ∉ Glyph.read t) :
    legible t = t := by
  have same : (Glyph.read t).flatMap kept = Glyph.write (Glyph.read t) := by
    rw [Glyph.write]
    apply List.flatMap_congr
    intro g member
    cases g with
    | char code => rfl
    | stray b => exact absurd member (characters b)
  rw [legible, same, Glyph.write_read]

/-! ## Arrays of strings and fields of objects -/

theorem length_of_readFrom {skip : Nat} {text t rest : Text}
    (read : readFrom skip text = some (t, rest)) : rest.length < text.length := by
  induction text generalizing skip t with
  | nil => cases read
  | cons b text ih =>
    cases skip with
    | succ skip => exact Nat.lt_succ_of_lt (ih read)
    | zero =>
      rw [readFrom] at read
      split_ifs at read with quote backslash control
      · cases read
        exact Nat.lt_succ_self _
      · split at read
        · cases read
        · obtain ⟨⟨u, behind⟩, later, same⟩ := Option.map_eq_some_iff.mp read
          cases same
          exact Nat.lt_succ_of_lt (ih later)
      · obtain ⟨⟨u, behind⟩, later, same⟩ := Option.map_eq_some_iff.mp read
        cases same
        exact Nat.lt_succ_of_lt (ih later)

theorem length_of_readString? {text t rest : Text} (read : readString? text = some (t, rest)) :
    rest.length < text.length := by
  unfold readString? at read
  split at read
  · exact Nat.lt_succ_of_lt (length_of_readFrom read)
  · cases read

def readItems (text : Text) : Option (List Text) :=
  match read : readString? text with
  | some (t, 0x2C :: rest) =>
    have : rest.length < text.length := Nat.lt_of_succ_lt (length_of_readString? read)
    (readItems rest).map (t :: ·)
  | some (t, [0x5D]) => some [t]
  | _ => none
termination_by text.length

def strings? : Text → Option (List Text)
  | 0x5B :: rest => if rest = utf8 "]" then some [] else readItems rest
  | _ => none

def readField (name text : Text) : Option Text :=
  match read : readString? text with
  | some (key, 0x3A :: rest) =>
    match value : readString? rest with
    | some (t, behind) =>
      if key = name then some t
      else
        match behind with
        | 0x2C :: more =>
          have : more.length < text.length := by
            have first := length_of_readString? read
            have second := length_of_readString? value
            simp only [List.length_cons] at first second
            omega
          readField name more
        | _ => none
    | none => none
  | _ => none
termination_by text.length

/-- The string in a field of an object, where all fields before it hold strings. -/
def field? (name : Text) : Text → Option Text
  | 0x7B :: rest => readField name rest
  | _ => none

theorem readItems_of_comma {text t rest : Text} (read : readString? text = some (t, 0x2C :: rest)) :
    readItems text = (readItems rest).map (t :: ·) := by
  rw [readItems]
  split
  · next found =>
    rw [read] at found
    cases found
    rfl
  · next found =>
    rw [read] at found
    cases found
  · next other _ => exact absurd read (other t rest)

theorem readItems_of_bracket {text t : Text} (read : readString? text = some (t, [0x5D])) :
    readItems text = some [t] := by
  rw [readItems]
  split
  · next found =>
    rw [read] at found
    cases found
  · next found =>
    rw [read] at found
    cases found
    rfl
  · next last => exact absurd read (last t)

theorem readItems_join (t : Text) (ts : List Text) :
    readItems (join (utf8 ",") ((t :: ts).map writeString) ++ utf8 "]")
      = some ((t :: ts).map legible) := by
  induction ts generalizing t with
  | nil => exact readItems_of_bracket (readString?_writeString t [0x5D])
  | cons u ts ih =>
    have split : join (utf8 ",") ((t :: u :: ts).map writeString) ++ utf8 "]"
        = writeString t ++ 0x2C :: (join (utf8 ",") ((u :: ts).map writeString) ++ utf8 "]") := by
      simp only [List.map_cons, join, List.append_assoc]
      rfl
    rw [split, readItems_of_comma (readString?_writeString t _), ih u]
    rfl

theorem writeItems_strings (ts : List Text) : writeItems (ts.map .string) = ts.map writeString := by
  induction ts with
  | nil => rfl
  | cons t ts ih => rw [List.map_cons, writeItems, ih, write, List.map_cons]

theorem strings?_write (ts : List Text) :
    strings? (write (.array (ts.map .string))) = some (ts.map legible) := by
  cases ts with
  | nil => rfl
  | cons t ts =>
    have read := readItems_join t ts
    have body : write (.array ((t :: ts).map .string))
        = 0x5B :: (join (utf8 ",") ((t :: ts).map writeString) ++ utf8 "]") := by
      rw [write, writeItems_strings]
      rfl
    have filled : join (utf8 ",") ((t :: ts).map writeString) ++ utf8 "]" ≠ utf8 "]" := by
      intro empty
      have nothing : readItems (utf8 "]") = none := by
        rw [readItems]
        rfl
      rw [empty, nothing] at read
      cases read
    rw [body, strings?, if_neg filled, read]

/-- The first of several fields is the one that is looked for, or is passed. -/
theorem readField_cons (name key t : Text) (next : Text × Json) (fields : List (Text × Json))
    (rest : Text) :
    readField name (join (utf8 ",") (writeFields ((key, .string t) :: next :: fields)) ++ rest)
      = if legible key = name then some (legible t)
        else readField name (join (utf8 ",") (writeFields (next :: fields)) ++ rest) := by
  obtain ⟨following, value⟩ := next
  have body : join (utf8 ",") (writeFields ((key, .string t) :: (following, value) :: fields)) ++ rest
      = writeString key ++ 0x3A :: (writeString t ++ 0x2C ::
          (join (utf8 ",") (writeFields ((following, value) :: fields)) ++ rest)) := by
    simp only [writeFields, write, join, List.append_assoc]
    rfl
  have keyRead := readString?_writeString key (0x3A :: (writeString t ++ 0x2C ::
    (join (utf8 ",") (writeFields ((following, value) :: fields)) ++ rest)))
  have valueRead := readString?_writeString t
    (0x2C :: (join (utf8 ",") (writeFields ((following, value) :: fields)) ++ rest))
  rw [body, readField]
  split
  · next found =>
    rw [keyRead] at found
    cases found
    split
    · next found =>
      rw [valueRead] at found
      cases found
      rfl
    · next found =>
      rw [valueRead] at found
      cases found
  · next other => exact absurd keyRead (other _ _)

end Json

end Text

namespace Response

open Text.Json

/-- A client reads all listed names. -/
theorem strings?_names (names : List Text) :
    strings? (Response.names names).body = some (names.map legible) :=
  strings?_write names

theorem field?_name (row : Store.Row) :
    field? (utf8 "name") (program row).body = some (legible row.name) := by
  simp only [program, json, write, List.append_assoc]
  exact (readField_cons _ _ _ _ _ _).trans (if_pos (by decide))

theorem field?_source (row : Store.Row) :
    field? (utf8 "source") (program row).body = some (legible row.source) := by
  simp only [program, json, write, List.append_assoc]
  refine (readField_cons _ _ _ _ _ _).trans ((if_neg (by decide)).trans ?_)
  exact (readField_cons _ _ _ _ _ _).trans (if_pos (by decide))

end Response

end TurtleLogo
