import RecordFilter.Decimal.Double
import RecordFilter.Proofs.Double.ReadBack

namespace RecordFilter

theorem Double.negate_ofRatio (negative : Bool) (num den : Nat) :
    (ofRatio negative num den).negate = ofRatio (!negative) num den := by
  unfold ofRatio ofUnits ofRank
  split <;> rfl

namespace Decimal

/-- The number that a decimal stands for. -/
def value (d : Decimal) : ℚ := d.digits / 10 ^ d.scale

/-- The places that a decimal needs room for; a zero needs none. -/
def places (d : Decimal) : Nat := if d.digits = 0 then 0 else d.scale

variable {a b d : Decimal}

@[simp] theorem value_zero : zero.value = 0 := by
  simp [value, zero]

@[simp] theorem value_ofInt64 (n : Int64) : (ofInt64 n).value = n.toInt := by
  simp [value, ofInt64]

@[simp] theorem places_zero : zero.places = 0 := rfl

@[simp] theorem places_ofInt64 (n : Int64) : (ofInt64 n).places = 0 :=
  ite_self 0

theorem value_eq_zero_iff : d.value = 0 ↔ d.digits = 0 := by
  simp [value]

theorem places_of_digits_eq_zero (h : d.digits = 0) : d.places = 0 := if_pos h

theorem places_of_digits_ne_zero (h : d.digits ≠ 0) : d.places = d.scale := if_neg h

theorem digits_at {scale : Nat} (fine : d.scale ≤ scale) :
    ((d.digits * (Nat.pow 10 (scale - d.scale) : Nat) : Int) : ℚ) = d.value * 10 ^ scale := by
  have split : (10 : ℚ) ^ scale = 10 ^ d.scale * 10 ^ (scale - d.scale) := by
    rw [← pow_add, Nat.add_sub_cancel' fine]
  rw [value, split, ← mul_assoc, div_mul_cancel₀ _ (by positivity)]
  push_cast [Nat.pow_eq]
  rfl

theorem eq_of_value (same : a.value = b.value) (scale : a.scale = b.scale) : a = b := by
  have digits : (a.digits : ℚ) = b.digits := by
    rw [value, value, scale] at same
    exact (div_left_inj' (by positivity)).mp same
  obtain ⟨m, s, _, _⟩ := a
  obtain ⟨n, t, _, _⟩ := b
  obtain rfl : s = t := scale
  obtain rfl : m = n := Int.cast_inj.mp digits
  rfl

theorem rescale_zero (digits : Int) : rescale digits 0 = digits := by
  have exact := Rounding.halfEven_exact digits.natAbs 1 Nat.one_pos
  rw [mul_one] at exact
  simp only [rescale, Nat.pow_eq, pow_zero, exact]
  split <;> omega

theorem fit_of_lt {digits : Int} {scale : Nat} (room : digits.natAbs < digitBound)
    (few : scale ≤ 28) : fit digits 0 scale = some ⟨digits, scale, room, few⟩ := by
  have made : make? (rescale digits 0) scale = some ⟨digits, scale, room, few⟩ := by
    rw [rescale_zero, make?, dif_pos ⟨room, few⟩]
  cases scale with
  | zero => exact made
  | succ scale => rw [fit, made, Option.some_or]

/-- A sum with room for its digits is exact. -/
theorem add?_of_room (room : |a.value + b.value| * 10 ^ max a.places b.places < digitBound) :
    ∃ d, a.add? b = some d ∧ d.value = a.value + b.value ∧
      (d.digits ≠ 0 → d.places = max a.places b.places) := by
  by_cases left : a.digits = 0
  · refine ⟨b, if_pos left, ?_, fun _ => ?_⟩
    · rw [value_eq_zero_iff.mpr left, zero_add]
    · rw [places_of_digits_eq_zero left, Nat.zero_max]
  by_cases right : b.digits = 0
  · refine ⟨a, ?_, ?_, fun _ => ?_⟩
    · rw [add?, if_neg left, if_pos right]
    · rw [value_eq_zero_iff.mpr right, add_zero]
    · rw [places_of_digits_eq_zero right, Nat.max_zero]
  rw [places_of_digits_ne_zero left, places_of_digits_ne_zero right] at room ⊢
  let scale := max a.scale b.scale
  let digits (d : Decimal) : Int := d.digits * (Nat.pow 10 (scale - d.scale) : Nat)
  have total : ((digits a + digits b : Int) : ℚ) = (a.value + b.value) * 10 ^ scale := by
    rw [Int.cast_add, digits_at (le_max_left ..), digits_at (le_max_right ..), add_mul]
  have short : (digits a + digits b).natAbs < digitBound := by
    have size : (((digits a + digits b).natAbs : Nat) : ℚ) < digitBound := by
      have power : (0 : ℚ) < 10 ^ scale := by positivity
      rw [Nat.cast_natAbs, Int.cast_abs, total, abs_mul, abs_of_pos power]
      exact room
    exact Nat.cast_lt.mp size
  have few : scale ≤ 28 := max_le a.scale_le b.scale_le
  refine ⟨⟨digits a + digits b, scale, short, few⟩, ?_, ?_, places_of_digits_ne_zero⟩
  · rw [add?, if_neg left, if_neg right]
    exact fit_of_lt short few
  · rw [value, total, mul_div_cancel_right₀ _ (by positivity)]

theorem toInt?_eq_some_iff {n : Int} : d.toInt? = some n ↔ d.value = n := by
  have power : (0 : Int) < (Nat.pow 10 d.scale : Nat) :=
    Int.natCast_pos.mpr (Nat.pow_pos (by decide))
  have stands : d.value = n ↔ d.digits = n * (Nat.pow 10 d.scale : Nat) := by
    rw [value, div_eq_iff (by positivity)]
    exact_mod_cast Iff.rfl
  rw [stands, toInt?]
  constructor
  · intro h
    split at h
    · next whole =>
      cases h
      exact (Int.ediv_mul_cancel (Int.dvd_of_emod_eq_zero whole)).symm
    · cases h
  · intro h
    rw [h, Int.mul_emod_left, if_pos rfl, Int.mul_ediv_cancel _ power.ne']

theorem toDouble_of_scale_eq_zero (h : d.scale = 0) : d.toDouble = Double.ofInt d.digits := by
  have size : Double.ofInt (d.digits.natAbs : Nat) = .ofRatio false d.digits.natAbs 1 := by
    rw [Double.ofInt, decide_eq_false (Int.natCast_nonneg _).not_gt, Int.natAbs_natCast]
  simp only [toDouble, h, Nat.pow_eq, pow_zero, Nat.div_one, Nat.mod_one, if_true, size,
    Double.negate_ofRatio, Bool.not_false]
  rw [Double.ofInt]
  by_cases negative : d.digits < 0 <;> simp [negative]

theorem isFinite_of_ofDoubleExactly? {x : Double} (h : ofDoubleExactly? x = some d) :
    x.isFinite = true := by
  cases x with
  | finite negative rank => rfl
  | _ => cases h

end Decimal
end RecordFilter
