import TurtleLogo.Value
import TurtleLogo.Proofs.Doubles

/-!
# Counts

The count of a number is the number without its fraction, as far as the counts reach. The ends of
their range are compared as doubles, though the greatest count is not a double: it is rounded up, to
the first integer beyond the counts. No double lies in between, so nothing is lost.
-/

set_option autoImplicit false

namespace TurtleLogo

/-! ## Numbers without their fraction -/

namespace Number

def whole (r : ℚ) : Int :=
  if 0 ≤ r then ⌊r⌋ else ⌈r⌉

theorem whole_mono : Monotone whole := by
  intro r s le
  unfold whole
  split_ifs with left right right
  · exact Int.floor_mono le
  · exact absurd (left.trans le) right
  · have below : ⌈r⌉ ≤ 0 := Int.ceil_le.mpr (by exact_mod_cast (not_le.mp left).le)
    exact below.trans (Int.floor_nonneg.mpr right)
  · exact Int.ceil_mono le

theorem truncate_eq (m : Nat) (q : Int) : (truncate m q : Int) = ⌊(m * 2 ^ q : ℚ)⌋ := by
  cases q with
  | ofNat k =>
    have product : (m * 2 ^ Int.ofNat k : ℚ) = (truncate m (.ofNat k) : Int) := by
      simp [truncate]
    rw [product, Int.floor_intCast]
  | negSucc k =>
    have quotient : (m * 2 ^ Int.negSucc k : ℚ) = (m : ℤ) / (2 ^ (k + 1) : ℕ) := by
      simp [zpow_negSucc, div_eq_mul_inv]
    rw [quotient, Rat.floor_intCast_div_natCast]
    simp [truncate]

theorem whole_neg (r : ℚ) : whole (-r) = -whole r := by
  unfold whole
  rcases lt_trichotomy r 0 with negative | rfl | positive
  · rw [if_pos (by linarith), if_neg (by linarith), Int.floor_neg]
  · simp
  · rw [if_neg (by linarith), if_pos (by linarith), Int.ceil_neg]

theorem whole_of_finite (negative : Bool) (m : Nat) (q : Int) :
    whole (((signOf negative).apply m : ℚ) * 2 ^ q) =
      if negative then -(truncate m q : Int) else truncate m q := by
  have magnitude : whole (m * 2 ^ q) = truncate m q := by
    rw [truncate_eq, whole, if_pos (by positivity)]
  cases negative with
  | false => simpa [signOf, Float.Model.UnpackedFloat.Sign.apply] using magnitude
  | true =>
    rw [if_pos rfl, ← magnitude, ← whole_neg]
    simp [signOf, Float.Model.UnpackedFloat.Sign.apply]

end Number

namespace Value

/-- The rational number that a value stands for, if its number is finite. -/
def rational? (v : Value) : Option ℚ :=
  v.float?.bind Number.rational?

theorem rational?_number {x : Float} {negative : Bool} {m : Nat} {q : Int}
    (finite : Number.parts x = .finite negative m q) :
    (number x).rational? = some (((Number.signOf negative).apply m : ℚ) * 2 ^ q) := by
  rw [rational?, float?, Number.not_isNaN finite (by simp)]
  exact Number.rational?_of_finite finite

/-- The count that is nearest to a number without its fraction. -/
def saturated (r : ℚ) : Int :=
  max (-2 ^ 63) (min (2 ^ 63 - 1) (Number.whole r))

theorem saturated_mono : Monotone saturated := by
  intro r s le
  exact max_le_max_left _ (min_le_min_left _ (Number.whole_mono le))

theorem saturated_nonneg {r : ℚ} (nonneg : 0 ≤ r) : 0 ≤ saturated r := by
  have zero : saturated 0 = 0 := by simp [saturated, Number.whole]
  rw [← zero]
  exact saturated_mono nonneg

theorem saturated_of_high {r : ℚ} (high : 2 ^ 63 ≤ r) : saturated r = greatestCount := by
  have beyond : 2 ^ 63 ≤ Number.whole r := by
    rw [Number.whole, if_pos (by linarith)]
    exact Int.le_floor.mpr (by exact_mod_cast high)
  have greatest : greatestCount = 2 ^ 63 - 1 := rfl
  rw [saturated, greatest]
  omega

theorem saturated_of_low {r : ℚ} (low : r ≤ -2 ^ 63) : saturated r = leastCount := by
  have beyond : Number.whole r ≤ -2 ^ 63 := by
    rw [Number.whole, if_neg (by linarith)]
    exact Int.ceil_le.mpr (by exact_mod_cast low)
  have least : leastCount = -2 ^ 63 := rfl
  rw [saturated, least]
  omega

theorem saturated_of_between {r : ℚ} (low : -2 ^ 63 < r) (high : r < 2 ^ 63) :
    saturated r = Number.whole r := by
  have reached : -2 ^ 63 ≤ Number.whole r ∧ Number.whole r < 2 ^ 63 := by
    unfold Number.whole
    split
    · rename_i positive
      have above : 0 ≤ ⌊r⌋ := Int.floor_nonneg.mpr positive
      exact ⟨by omega, Int.floor_lt.mpr (by exact_mod_cast high)⟩
    · rename_i negative
      have below : ⌈r⌉ ≤ 0 := Int.ceil_le.mpr (by exact_mod_cast (not_le.mp negative).le)
      have above : -2 ^ 63 < ⌈r⌉ := Int.lt_ceil.mpr (by exact_mod_cast low)
      exact ⟨above.le, by omega⟩
  rw [saturated]
  omega

/-- The ends of the range as doubles. The greatest count has become the power of two above it. -/
theorem rational?_greatestCount :
    Number.rational? (Float.ofInt greatestCount) = some (2 ^ 63) := by
  have taken : Number.parts (Float.ofInt greatestCount) = .finite false (2 ^ 52) 11 := by
    decide +kernel
  rw [Number.rational?_of_finite taken]
  norm_num [Number.signOf, Float.Model.UnpackedFloat.Sign.apply]

theorem rational?_leastCount : Number.rational? (Float.ofInt leastCount) = some (-2 ^ 63) := by
  have taken : Number.parts (Float.ofInt leastCount) = .finite true (2 ^ 52) 11 := by
    decide +kernel
  rw [Number.rational?_of_finite taken]
  norm_num [Number.signOf, Float.Model.UnpackedFloat.Sign.apply]

theorem int?_of_rational? {v : Value} {r : ℚ} (known : v.rational? = some r) :
    v.int? = some (saturated r) := by
  obtain ⟨x, number, value⟩ := Option.bind_eq_some_iff.mp known
  rw [int?, number]
  dsimp only
  cases taken : Number.parts x with
  | nan =>
    rw [Number.rational?_of_nan taken] at value
    cases value
  | infinite negative =>
    rw [Number.rational?_of_infinite taken] at value
    cases value
  | finite negative m q =>
    have high := Number.le_iff_rational_le rational?_greatestCount value
    have low := Number.le_iff_rational_le value rational?_leastCount
    dsimp only
    rw [Number.rational?_of_finite taken] at value
    cases value
    by_cases beyond : Float.ofInt greatestCount ≤ x
    · rw [if_pos beyond, saturated_of_high (high.mp beyond)]
    · rw [if_neg beyond]
      by_cases below : x ≤ Float.ofInt leastCount
      · rw [if_pos below, saturated_of_low (low.mp below)]
      · rw [if_neg below,
          saturated_of_between (not_le.mp (mt low.mpr below)) (not_le.mp (mt high.mpr beyond)),
          Number.whole_of_finite]

theorem int?_of_rational?_eq_none {v : Value} (unknown : v.rational? = none) : v.int? = none := by
  rw [int?]
  cases number : v.float? with
  | none => rfl
  | some x =>
    dsimp only
    cases taken : Number.parts x with
    | nan | infinite => rfl
    | finite negative m q =>
      rw [rational?, number, Option.bind_some, Number.rational?_of_finite taken] at unknown
      cases unknown

/-- A value whose number is finite has a count: the number without its fraction, moved into the range
of 64 bits if it lies beyond. No other value has one. So a greater number has no smaller count. -/
theorem counts_truncate_and_saturate :
    (∀ v r, rational? v = some r → v.int? = some (saturated r)) ∧
      (∀ v, rational? v = none → v.int? = none) ∧
      ∀ v w r s, rational? v = some r → rational? w = some s → r ≤ s →
        ∃ n k, v.int? = some n ∧ w.int? = some k ∧ n ≤ k := by
  refine ⟨fun v r => int?_of_rational?, fun v => int?_of_rational?_eq_none, ?_⟩
  intro v w r s left right le
  exact ⟨_, _, int?_of_rational? left, int?_of_rational? right, saturated_mono le⟩

/-- The greatest double among the counts keeps its value, the next one is the first beyond, and what
is no number has no count. -/
theorem counts_truncate_and_saturate_edge :
    let last := Value.number (Float.ofBits 0x43DFFFFFFFFFFFFF)
    let beyond := Value.number (Float.ofBits 0x43E0000000000000)
    let nan := Value.number (Float.ofBits 0x7FF8000000000001)
    last.int? = some (2 ^ 63 - 1024) ∧ beyond.int? = some (2 ^ 63 - 1) ∧ nan.int? = none ∧
      ∃ n k, last.int? = some n ∧ beyond.int? = some k ∧ n ≤ k := by
  intro last beyond nan
  obtain ⟨finite, others, ordered⟩ := counts_truncate_and_saturate
  have lastNumber : last.rational? = some (2 ^ 63 - 1024) := by
    have taken : Number.parts (Float.ofBits 0x43DFFFFFFFFFFFFF) = .finite false (2 ^ 53 - 1) 10 := by
      decide +kernel
    rw [rational?_number taken]
    norm_num [Number.signOf, Float.Model.UnpackedFloat.Sign.apply]
  have beyondNumber : beyond.rational? = some (2 ^ 63) := by
    have taken : Number.parts (Float.ofBits 0x43E0000000000000) = .finite false (2 ^ 52) 11 := by
      decide +kernel
    rw [rational?_number taken]
    norm_num [Number.signOf, Float.Model.UnpackedFloat.Sign.apply]
  have nanNumber : nan.rational? = none := by
    have unread : nan.float? = none := by decide +kernel
    rw [rational?, unread]
    rfl
  refine ⟨?_, ?_, others _ nanNumber, ordered _ _ _ _ lastNumber beyondNumber (by norm_num)⟩
  · rw [finite _ _ lastNumber]
    norm_num [saturated, Number.whole]
  · rw [finite _ _ beyondNumber]
    norm_num [saturated, Number.whole]

end Value

end TurtleLogo
