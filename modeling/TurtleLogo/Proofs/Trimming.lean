import Mathlib
import TurtleLogo.Text.Blank

/-!
# Trimmed texts

Reading a text as glyphs and writing them back gives the text, and a part of its glyphs, written on
its own, is read as the same glyphs. So trimming, which keeps such a part, leaves a text that is
trimmed already.
-/

set_option autoImplicit false

namespace TurtleLogo

namespace Glyph

/-! ## The bytes of one character -/

theorem ofNat_eq {n : Nat} {b : UInt8} (same : n = b.toNat) : UInt8.ofNat n = b := by
  rw [same, UInt8.ofNat_toNat]

theorem bounds_of_isContinuation {b : UInt8} (continuation : isContinuation b = true) :
    0x80 ≤ b.toNat ∧ b.toNat ≤ 0xBF := by
  simpa [isContinuation, UInt8.le_iff_toNat_le] using continuation

theorem encode_of_pair? {a : UInt8} {rest : Text} {code more : Nat} (low : 0xC2 ≤ a.toNat)
    (high : a.toNat ≤ 0xDF) (found : pair? a rest = some (code, more)) :
    ∃ b after, rest = b :: after ∧ more = 1 ∧ encode code = [a, b] := by
  rcases rest with _ | ⟨b, after⟩
  · simp [pair?] at found
  · simp only [pair?, Option.ite_none_right_eq_some] at found
    obtain ⟨continuation, found⟩ := found
    injection found with found
    injection found with value count
    unfold tailBits at value
    obtain ⟨lowB, highB⟩ := bounds_of_isContinuation continuation
    refine ⟨b, after, rfl, count.symm, ?_⟩
    rw [encode, if_neg (by omega), if_pos (by omega), ofNat_eq (b := a) (by omega),
      ofNat_eq (b := b) (by omega)]

theorem encode_of_triple? {a : UInt8} {rest : Text} {code more : Nat} (low : 0xE0 ≤ a.toNat)
    (high : a.toNat ≤ 0xEF) (found : triple? a rest = some (code, more)) :
    ∃ b c after, rest = b :: c :: after ∧ more = 2 ∧ encode code = [a, b, c] := by
  rcases rest with _ | ⟨b, _ | ⟨c, after⟩⟩
  · simp [triple?] at found
  · simp [triple?] at found
  · simp only [triple?, Option.ite_none_right_eq_some, Bool.and_eq_true, decide_eq_true_eq]
      at found
    obtain ⟨⟨⟨⟨continuationB, continuationC⟩, least⟩, _⟩, found⟩ := found
    injection found with found
    injection found with value count
    unfold tailBits at value least
    obtain ⟨lowB, highB⟩ := bounds_of_isContinuation continuationB
    obtain ⟨lowC, highC⟩ := bounds_of_isContinuation continuationC
    refine ⟨b, c, after, rfl, count.symm, ?_⟩
    rw [encode, if_neg (by omega), if_neg (by omega), if_pos (by omega),
      ofNat_eq (b := a) (by omega), ofNat_eq (b := b) (by omega), ofNat_eq (b := c) (by omega)]

theorem encode_of_quadruple? {a : UInt8} {rest : Text} {code more : Nat} (low : 0xF0 ≤ a.toNat)
    (high : a.toNat ≤ 0xF4) (found : quadruple? a rest = some (code, more)) :
    ∃ b c d after, rest = b :: c :: d :: after ∧ more = 3 ∧ encode code = [a, b, c, d] := by
  rcases rest with _ | ⟨b, _ | ⟨c, _ | ⟨d, after⟩⟩⟩
  · simp [quadruple?] at found
  · simp [quadruple?] at found
  · simp [quadruple?] at found
  · simp only [quadruple?, Option.ite_none_right_eq_some, Bool.and_eq_true, decide_eq_true_eq]
      at found
    obtain ⟨⟨⟨⟨⟨continuationB, continuationC⟩, continuationD⟩, least⟩, _⟩, found⟩ := found
    injection found with found
    injection found with value count
    unfold tailBits at value least
    obtain ⟨lowB, highB⟩ := bounds_of_isContinuation continuationB
    obtain ⟨lowC, highC⟩ := bounds_of_isContinuation continuationC
    obtain ⟨lowD, highD⟩ := bounds_of_isContinuation continuationD
    refine ⟨b, c, d, after, rfl, count.symm, ?_⟩
    rw [encode, if_neg (by omega), if_neg (by omega), if_neg (by omega),
      ofNat_eq (b := a) (by omega), ofNat_eq (b := b) (by omega), ofNat_eq (b := c) (by omega),
      ofNat_eq (b := d) (by omega)]

/-- A sequence is found by its own bytes, whatever stands behind them, and they are what its code is
written as. -/
theorem sequence?_shape {a : UInt8} {rest : Text} {code more : Nat}
    (found : sequence? a rest = some (code, more)) :
    more ≤ rest.length ∧ encode code = a :: rest.take more ∧
      ∀ after, sequence? a (rest.take more ++ after) = some (code, more) := by
  unfold sequence? at found ⊢
  simp only [Bool.and_eq_true, decide_eq_true_eq, UInt8.le_iff_toNat_le, UInt8.lt_iff_toNat_lt,
    UInt8.reduceToNat] at found ⊢
  by_cases ascii : a.toNat < 128
  · rw [if_pos ascii] at found
    injection found with found
    injection found with value count
    subst value count
    refine ⟨Nat.zero_le _, ?_, ?_⟩
    · rw [encode, if_pos ascii, UInt8.ofNat_toNat]
      rfl
    · intro after
      rw [if_pos ascii]
  · rw [if_neg ascii] at found
    simp only [if_neg ascii]
    by_cases two : 194 ≤ a.toNat ∧ a.toNat ≤ 223
    · rw [if_pos two] at found
      obtain ⟨b, behind, rfl, rfl, bytes⟩ := encode_of_pair? two.1 two.2 found
      refine ⟨by simp, bytes, ?_⟩
      intro after
      rw [if_pos two]
      exact found
    · rw [if_neg two] at found
      simp only [if_neg two]
      by_cases three : 224 ≤ a.toNat ∧ a.toNat ≤ 239
      · rw [if_pos three] at found
        obtain ⟨b, c, behind, rfl, rfl, bytes⟩ := encode_of_triple? three.1 three.2 found
        refine ⟨by simp, bytes, ?_⟩
        intro after
        rw [if_pos three]
        exact found
      · rw [if_neg three] at found
        simp only [if_neg three]
        by_cases four : 240 ≤ a.toNat ∧ a.toNat ≤ 244
        · rw [if_pos four] at found
          obtain ⟨b, c, d, behind, rfl, rfl, bytes⟩ := encode_of_quadruple? four.1 four.2 found
          refine ⟨by simp, bytes, ?_⟩
          intro after
          rw [if_pos four]
          exact found
        · rw [if_neg four] at found
          cases found

/-- A byte that starts no sequence does not start one when less stands behind it. -/
theorem sequence?_append_none {a : UInt8} {rest : Text} (after : Text)
    (absent : sequence? a (rest ++ after) = none) : sequence? a rest = none := by
  cases found : sequence? a rest with
  | none => rfl
  | some result =>
    obtain ⟨code, more⟩ := result
    have longer := (sequence?_shape found).2.2 (rest.drop more ++ after)
    rw [← List.append_assoc, List.take_append_drop, absent] at longer
    cases longer

/-! ## All glyphs of a text -/

theorem readAfter_eq (skip : Nat) (t : Text) : readAfter skip t = read (t.drop skip) := by
  induction t generalizing skip with
  | nil => simp [read, readAfter]
  | cons b rest ih =>
    cases skip with
    | zero => rfl
    | succ skip => exact ih skip

theorem read_of_char {b : UInt8} {rest : Text} {code more : Nat}
    (found : sequence? b rest = some (code, more)) :
    read (b :: rest) = .char code :: read (rest.drop more) := by
  rw [read, readAfter, found]
  exact congrArg (Glyph.char code :: ·) (readAfter_eq more rest)

theorem read_of_stray {b : UInt8} {rest : Text} (absent : sequence? b rest = none) :
    read (b :: rest) = .stray b :: read rest := by
  rw [read, readAfter, absent]
  rfl

theorem write_read (t : Text) : write (read t) = t := by
  induction length : t.length using Nat.strong_induction_on generalizing t with
  | h n ih =>
    cases t with
    | nil => rfl
    | cons b rest =>
      simp only [List.length_cons] at length
      cases found : sequence? b rest with
      | none =>
        rw [read_of_stray found]
        have again := ih rest.length (by omega) rest rfl
        rw [write, List.flatMap_cons, ← write, again]
        rfl
      | some result =>
        obtain ⟨code, more⟩ := result
        rw [read_of_char found]
        have shorter : (rest.drop more).length < n := by
          rw [List.length_drop]
          omega
        have again := ih _ shorter (rest.drop more) rfl
        rw [write, List.flatMap_cons, ← write, again, bytes, (sequence?_shape found).2.1,
          List.cons_append, List.take_append_drop]

theorem write_append (front back : List Glyph) : write (front ++ back) = write front ++ write back :=
  List.flatMap_append

/-- The glyphs at the end of a text are those of a text. -/
theorem exists_read_of_append {t : Text} {front back : List Glyph}
    (split : read t = front ++ back) : ∃ t', read t' = back := by
  induction front generalizing t with
  | nil => exact ⟨t, split⟩
  | cons g front ih =>
    cases t with
    | nil => cases split
    | cons b rest =>
      cases found : sequence? b rest with
      | none =>
        rw [read_of_stray found] at split
        exact ih (List.cons.inj split).2
      | some result =>
        obtain ⟨code, more⟩ := result
        rw [read_of_char found] at split
        exact ih (List.cons.inj split).2

/-- The glyphs at the start of a text are read again when only they are written. -/
theorem read_write_of_append {t : Text} {front back : List Glyph}
    (split : read t = front ++ back) : read (write front) = front := by
  induction front generalizing t with
  | nil => rfl
  | cons g front ih =>
    cases t with
    | nil => cases split
    | cons b rest =>
      cases found : sequence? b rest with
      | none =>
        rw [read_of_stray found, List.cons_append] at split
        obtain ⟨rfl, later⟩ := List.cons.inj split
        -- With fewer bytes behind it, a stray byte cannot come to start a sequence.
        have absent : sequence? b (write front) = none := by
          apply sequence?_append_none (write back)
          rw [← write_append, ← later, write_read]
          exact found
        have written : write (.stray b :: front) = b :: write front := rfl
        rw [written, read_of_stray absent, ih later]
      | some result =>
        obtain ⟨code, more⟩ := result
        obtain ⟨long, spelled, present⟩ := sequence?_shape found
        rw [read_of_char found, List.cons_append] at split
        obtain ⟨rfl, later⟩ := List.cons.inj split
        have written : write (.char code :: front) = b :: (rest.take more ++ write front) := by
          rw [write, List.flatMap_cons, bytes, spelled]
          rfl
        have dropped : (rest.take more ++ write front).drop more = write front := by
          rw [List.drop_append_of_le_length (by simp [long])]
          simp
        rw [written, read_of_char (present (write front)), dropped, ih later]

/-- A part of the glyphs of a text is read again when only that part is written. -/
theorem read_write_of_infix {t : Text} {before part after : List Glyph}
    (split : read t = before ++ (part ++ after)) : read (write part) = part := by
  obtain ⟨t', rest⟩ := exists_read_of_append split
  exact read_write_of_append rest

end Glyph

namespace Text

def strip (glyphs : List Glyph) : List Glyph :=
  (glyphs.dropWhile isBlank).rdropWhile isBlank

theorem trim_eq (t : Text) : trim t = Glyph.write (strip (Glyph.read t)) :=
  rfl

theorem strip_infix (glyphs : List Glyph) :
    ∃ before after, glyphs = before ++ (strip glyphs ++ after) := by
  obtain ⟨after, trailing⟩ := List.rdropWhile_prefix isBlank (glyphs.dropWhile isBlank)
  refine ⟨glyphs.takeWhile isBlank, after, ?_⟩
  rw [strip, trailing, List.takeWhile_append_dropWhile]

theorem strip_strip (glyphs : List Glyph) : strip (strip glyphs) = strip glyphs := by
  have leading : (strip glyphs).dropWhile isBlank = strip glyphs := by
    obtain ⟨after, trailing⟩ := List.rdropWhile_prefix isBlank (glyphs.dropWhile isBlank)
    cases first : strip glyphs with
    | nil => rfl
    | cons g rest =>
      have kept := List.head?_dropWhile_not isBlank glyphs
      rw [← trailing, ← strip, first] at kept
      exact List.dropWhile_cons_of_neg (by simpa using kept)
  rw [strip, leading, strip, List.rdropWhile_idempotent]

theorem trim_trim (t : Text) : trim (trim t) = trim t := by
  obtain ⟨before, after, split⟩ := strip_infix (Glyph.read t)
  rw [trim_eq (trim t), trim_eq t, Glyph.read_write_of_infix split, strip_strip]

end Text

end TurtleLogo
