import Mathlib
import TurtleLogo.Number.Binary

/-!
# Doubles as rational numbers

A finite double is a rational number, and comparing two of them compares these numbers. The model of
doubles that stands behind the comparison goes by exponents first and by mantissas then, which is
right because every double but the smallest ones has a mantissa of full length.
-/

set_option autoImplicit false

namespace TurtleLogo

namespace Number

open Float.Model Float.Model.UnpackedFloat

/-! ## The model of doubles -/

/-- The rational number that a double is, unless it is infinite or no number at all. -/
def rational? (x : Float) : Option ℚ :=
  match x.toModel.unpack with
  | .zero _ => some 0
  | .finite sign m e _ => some (sign.apply m * 2 ^ e)
  | .infinity _ | .notANumber => none

def signOf (negative : Bool) : Sign :=
  if negative then .negative else .positive

/-- What the model takes a double apart into, which it calls a zero by its own name. -/
def Parts.unpacked : Parts → UnpackedFloat
  | .nan => .notANumber
  | .infinite negative => .infinity (signOf negative)
  | .finite negative m q =>
    if positive : 0 < m then .finite (signOf negative) m q positive else .zero (signOf negative)

section Fields

variable (b : UInt64)

theorem toNat_unpackMantissa :
    (@unpackMantissa Format.binary64 b.toBitVec).toNat = b.toNat % 2 ^ 52 := by
  rw [unpackMantissa, BitVec.toNat_cast, BitVec.extractLsb_toNat, UInt64.toNat_toBitVec]
  rfl

theorem toNat_unpackExponent :
    (@unpackExponent Format.binary64 b.toBitVec).toNat = b.toNat / 2 ^ 52 % 2 ^ 11 := by
  rw [unpackExponent_def, BitVec.extractLsb'_toNat, UInt64.toNat_toBitVec,
    Nat.shiftRight_eq_div_pow]

theorem ofBitVec_unpackSign :
    Sign.ofBitVec (@unpackSign Format.binary64 b.toBitVec) = signOf (2 ^ 63 ≤ b.toNat) := by
  have bit : (@unpackSign Format.binary64 b.toBitVec).toNat = b.toNat / 2 ^ 63 % 2 := by
    rw [unpackSign, BitVec.toNat_cast, BitVec.extractLsb_toNat, UInt64.toNat_toBitVec,
      Nat.shiftRight_eq_div_pow]
    rfl
  have bound := b.toNat_lt
  have unset : @unpackSign Format.binary64 b.toBitVec = 0#1 ↔ ¬2 ^ 63 ≤ b.toNat := by
    rw [← BitVec.toNat_inj, bit, BitVec.toNat_ofNat]
    omega
  rw [Sign.ofBitVec]
  by_cases negative : 2 ^ 63 ≤ b.toNat
  · rw [if_neg (by rw [unset, not_not]; exact negative), decide_eq_true negative]
    rfl
  · rw [if_pos (unset.mpr negative), decide_eq_false negative]
    rfl

theorem toNat_one_append (m : BitVec 52) : (1#1 ++ m).toNat = 2 ^ 52 + m.toNat := by
  rw [BitVec.toNat_append, ← Nat.shiftLeft_add_eq_or_of_lt m.isLt]
  rfl

/-- Taking the bits of a double apart agrees with the model. -/
theorem unpack_eq :
    UnpackedFloat.unpack Format.binary64 b.toBitVec = (partsOfBits b.toNat).unpacked := by
  have full : @unpackExponent Format.binary64 b.toBitVec = -1#11 ↔
      b.toNat / 2 ^ 52 % 2 ^ 11 = 2047 := by
    rw [← BitVec.toNat_inj, toNat_unpackExponent]
    rfl
  have least : @unpackExponent Format.binary64 b.toBitVec = 0#11 ↔
      b.toNat / 2 ^ 52 % 2 ^ 11 = 0 := by
    rw [← BitVec.toNat_inj, toNat_unpackExponent]
    rfl
  have empty : @unpackMantissa Format.binary64 b.toBitVec = 0#52 ↔ b.toNat % 2 ^ 52 = 0 := by
    rw [← BitVec.toNat_inj, toNat_unpackMantissa]
    rfl
  unfold UnpackedFloat.unpack partsOfBits
  simp only [Nat.pow_eq, ofBitVec_unpackSign]
  by_cases special : b.toNat / 2 ^ 52 % 2 ^ 11 = 2047
  · rw [if_pos (full.mpr special), if_pos special]
    by_cases infinite : b.toNat % 2 ^ 52 = 0
    · rw [if_pos (empty.mpr infinite), if_pos infinite]
      rfl
    · rw [if_neg (mt empty.mp infinite), if_neg infinite]
      rfl
  · rw [if_neg (mt full.mp special), if_neg special]
    by_cases small : b.toNat / 2 ^ 52 % 2 ^ 11 = 0
    · rw [if_pos (least.mpr small), if_pos small, Parts.unpacked]
      by_cases zero : b.toNat % 2 ^ 52 = 0
      · rw [dif_pos (empty.mpr zero), dif_neg (by omega)]
      · rw [dif_neg (mt empty.mp zero), dif_pos (by omega)]
        simp only [toNat_unpackMantissa, toNat_unpackExponent, small]
        rfl
    · rw [if_neg (mt least.mp small), if_neg small, Parts.unpacked, dif_pos (by positivity)]
      simp only [toNat_one_append, toNat_unpackMantissa, toNat_unpackExponent]
      rfl

end Fields

theorem unpack_toModel (x : Float) : x.toModel.unpack = (parts x).unpacked :=
  unpack_eq x.toBits

theorem rational?_of_finite {x : Float} {negative : Bool} {m : Nat} {q : Int}
    (finite : parts x = .finite negative m q) :
    rational? x = some (((signOf negative).apply m : ℚ) * 2 ^ q) := by
  unfold rational?
  rw [unpack_toModel, finite, Parts.unpacked]
  by_cases positive : 0 < m
  · rw [dif_pos positive]
  · obtain rfl : m = 0 := by omega
    rw [dif_neg positive]
    cases negative <;> simp [signOf, Sign.apply]

theorem rational?_of_infinite {x : Float} {negative : Bool} (infinite : parts x = .infinite negative) :
    rational? x = none := by
  unfold rational?
  rw [unpack_toModel, infinite]
  rfl

theorem rational?_of_nan {x : Float} (nan : parts x = .nan) : rational? x = none := by
  unfold rational?
  rw [unpack_toModel, nan]
  rfl

/-! ## Comparisons -/

/-- A mantissa and an exponent in the only form that the model has for their product: the mantissa
is shorter than it could be with the least exponent only. -/
structure Canonical (m : Nat) (e : Int) : Prop where
  short : m < 2 ^ 53
  least_le : -1074 ≤ e
  full : e ≠ -1074 → 2 ^ 52 ≤ m

theorem canonical_of_parts {x : Float} {negative : Bool} {m : Nat} {q : Int}
    (finite : parts x = .finite negative m q) : Canonical m q := by
  unfold parts partsOfBits at finite
  simp only [Nat.pow_eq] at finite
  split at finite
  · split at finite <;> cases finite
  · split at finite
    · cases finite
      exact ⟨by omega, by omega, by omega⟩
    · cases finite
      exact ⟨by omega, by omega, by omega⟩

/-- Between canonical forms, a smaller exponent makes a smaller number. -/
theorem Canonical.scaled_lt {m n : Nat} {e f : Int} (left : Canonical m e) (right : Canonical n f)
    (less : e < f) : (m * 2 ^ e : ℚ) < n * 2 ^ f := by
  have full : 2 ^ 52 ≤ n := right.full (by have := left.least_le; omega)
  have short : m < 2 * n := by have := left.short; omega
  calc (m * 2 ^ e : ℚ)
      < (2 * n : ℕ) * 2 ^ e := by gcongr
    _ = n * 2 ^ (e + 1) := by
      rw [zpow_add_one₀ (by norm_num)]
      push_cast
      ring
    _ ≤ n * 2 ^ f := by
      gcongr
      · norm_num
      · omega

theorem Canonical.scaled_le_iff {m n : Nat} {e f : Int} (left : Canonical m e)
    (right : Canonical n f) :
    (m * 2 ^ e : ℚ) ≤ n * 2 ^ f ↔ ((compare e f).then (compare m n)).isLE = true := by
  rw [Ordering.isLE_then_iff_or, compare_lt_iff_lt, compare_eq_iff_eq, Nat.isLE_compare]
  rcases lt_trichotomy e f with less | rfl | greater
  · exact iff_of_true (left.scaled_lt right less).le (.inl less)
  · have scale : (0 : ℚ) < 2 ^ e := by positivity
    rw [mul_le_mul_iff_left₀ scale, Nat.cast_le]
    simp
  · have beyond := right.scaled_lt left greater
    refine iff_of_false (not_le.mpr beyond) ?_
    omega

/-- What the model takes a double apart into that is a rational number. -/
theorem unpack_of_rational? {x : Float} {r : ℚ} (known : rational? x = some r) :
    (∃ sign, x.toModel.unpack = .zero sign ∧ r = 0) ∨
      ∃ sign m e positive, x.toModel.unpack = .finite sign m e positive ∧ Canonical m e ∧
        r = sign.apply m * 2 ^ e := by
  unfold rational? at known
  split at known
  · rename_i sign unpacked
    exact .inl ⟨sign, unpacked, (Option.some.inj known).symm⟩
  · rename_i sign m e positive unpacked
    refine .inr ⟨sign, m, e, positive, unpacked, ?_, (Option.some.inj known).symm⟩
    rw [unpack_toModel] at unpacked
    cases taken : parts x with
    | nan | infinite =>
      rw [taken] at unpacked
      cases unpacked
    | finite negative n q =>
      rw [taken, Parts.unpacked] at unpacked
      split at unpacked
      · cases unpacked
        exact canonical_of_parts taken
      · cases unpacked
  · cases known
  · cases known

theorem le_iff_isLE {x y : Float} :
    x ≤ y ↔ (x.toModel.unpack.compare y.toModel.unpack).any (·.isLE) = true := by
  show decide (x.toModel ≤ y.toModel) = true ↔ _
  rw [decide_eq_true_iff]
  rfl

theorem scaled_pos {m : Nat} (positive : 0 < m) (e : Int) : (0 : ℚ) < m * 2 ^ e := by
  positivity

theorem isLE_compare_finite {m n : Nat} {e f : Int} (form : Canonical m e) (form' : Canonical n f)
    (positive : 0 < m) (positive' : 0 < n) (sign sign' : Sign) :
    ((UnpackedFloat.finite sign m e positive).compare (.finite sign' n f positive')).any (·.isLE) =
        true ↔
      (sign.apply m * 2 ^ e : ℚ) ≤ sign'.apply n * 2 ^ f := by
  have left := scaled_pos positive e
  have right := scaled_pos positive' f
  cases sign with
  | positive =>
    cases sign' with
    | positive => exact (form.scaled_le_iff form').symm
    | negative =>
      refine iff_of_false (by simp [UnpackedFloat.compare]) ?_
      simp only [Sign.apply, Int.cast_neg, Int.cast_natCast, neg_mul, not_le]
      linarith
  | negative =>
    cases sign' with
    | positive =>
      refine iff_of_true (by simp [UnpackedFloat.compare]) ?_
      simp only [Sign.apply, Int.cast_neg, Int.cast_natCast, neg_mul]
      linarith
    | negative =>
      simp only [UnpackedFloat.compare, Option.any_some, Sign.apply, Int.cast_neg, Int.cast_natCast,
        neg_mul, neg_le_neg_iff]
      rw [form'.scaled_le_iff form, Ordering.swap_then, Int.compare_swap, Nat.compare_swap]

/-- Comparing finite doubles compares the numbers that they are. -/
theorem le_iff_rational_le {x y : Float} {r s : ℚ} (left : rational? x = some r)
    (right : rational? y = some s) : x ≤ y ↔ r ≤ s := by
  rw [le_iff_isLE]
  rcases unpack_of_rational? left with ⟨sign, unpacked, rfl⟩ | ⟨sign, m, e, positive, unpacked, form, rfl⟩
  · rcases unpack_of_rational? right with
      ⟨sign', unpacked', rfl⟩ | ⟨sign', n, f, positive', unpacked', form', rfl⟩
    · simp [unpacked, unpacked', UnpackedFloat.compare]
    · have beyond := scaled_pos positive' f
      cases sign' <;> simp [unpacked, unpacked', UnpackedFloat.compare, Sign.apply, beyond, beyond.le]
  · rcases unpack_of_rational? right with
      ⟨sign', unpacked', rfl⟩ | ⟨sign', n, f, positive', unpacked', form', rfl⟩
    · have beyond := scaled_pos positive e
      cases sign <;> simp [unpacked, unpacked', UnpackedFloat.compare, Sign.apply, beyond, beyond.le]
    · rw [unpacked, unpacked']
      exact isLE_compare_finite form form' positive positive' sign sign'

/-! ## Numbers greater than zero -/

def Positive (x : Float) : Prop :=
  parts x = .infinite false ∨ ∃ r, rational? x = some r ∧ 0 < r

theorem not_isNaN {x : Float} {p : Parts} (taken : parts x = p) (number : p ≠ .nan) :
    isNaN x = false := by
  rw [isNaN, taken]
  exact beq_false_of_ne number

/-- What is not greater than zero compares so, unless it is no number. -/
theorem le_zero_iff (x : Float) : x ≤ 0 ↔ isNaN x = false ∧ ¬Positive x := by
  have zero : rational? 0 = some 0 := rfl
  have unpacked : (0 : Float).toModel.unpack = .zero .positive := rfl
  cases taken : parts x with
  | nan =>
    have incomparable : ¬x ≤ 0 := by
      rw [le_iff_isLE, unpack_toModel, taken, unpacked]
      simp [Parts.unpacked, UnpackedFloat.compare]
    simp [incomparable, isNaN, taken]
  | infinite negative =>
    have number := not_isNaN taken (by simp)
    rw [le_iff_isLE, unpack_toModel, taken, unpacked, Positive, rational?_of_infinite taken, taken]
    cases negative <;> simp [number, Parts.unpacked, signOf, UnpackedFloat.compare]
  | finite negative m q =>
    have number := not_isNaN taken (by simp)
    have known := rational?_of_finite taken
    rw [le_iff_rational_le known zero, Positive, known, taken]
    simp [number]

end Number

end TurtleLogo
