import Mathlib
import RecordFilter.Double.Shortest

namespace RecordFilter

namespace Rounding

theorem halfEven_mul (num den k : Nat) (hk : 0 < k) :
    halfEven (num * k) (den * k) = halfEven num den := by
  have twice (a b : Nat) : 2 * (a * k) < b * k ↔ 2 * a < b := by
    rw [← Nat.mul_assoc]
    exact Nat.mul_lt_mul_right hk
  have twice' (a b : Nat) : b * k < 2 * (a * k) ↔ b < 2 * a := by
    rw [← Nat.mul_assoc]
    exact Nat.mul_lt_mul_right hk
  simp only [halfEven, Nat.mul_div_mul_right _ _ hk, Nat.mul_mod_mul_right, twice, twice']

theorem halfEven_exact (q den : Nat) (hd : 0 < den) : halfEven (q * den) den = q := by
  simp [halfEven, Nat.mul_div_cancel _ hd, hd]

end Rounding

namespace Double

theorem bitLength_of_bounds {n k : Nat} (low : 2 ^ k ≤ n) (high : n < 2 ^ (k + 1)) :
    bitLength n = k + 1 := by
  have pos : n ≠ 0 := by
    have := Nat.two_pow_pos k
    omega
  have below : n.log2 < k + 1 := (Nat.log2_lt pos).mpr high
  have above : k ≤ n.log2 := (Nat.le_log2 pos).mpr low
  have exact : n.log2 = k := by omega
  rw [bitLength, if_neg pos, exact]

theorem nearestRank_mul (num den k : Nat) (hk : 0 < k) :
    nearestRank (num * k) (den * k) = nearestRank num den := by
  have comm (e : Nat) : den * k * Nat.pow 2 e = den * Nat.pow 2 e * k := Nat.mul_right_comm ..
  simp only [nearestRank, Nat.mul_div_mul_right _ _ hk, comm, Rounding.halfEven_mul _ _ _ hk]

/-- A magnitude is nearest to itself. -/
theorem nearestRank_magnitude (rank k : Nat) (hk : 0 < k) :
    nearestRank (magnitude rank * k) k = rank := by
  have scale := nearestRank_mul (magnitude rank) 1 k hk
  rw [Nat.one_mul] at scale
  rw [scale, nearestRank, Nat.div_one]
  by_cases small : rank < binade
  · have low : bitLength rank ≤ 53 := by
      unfold bitLength
      split
      · omega
      · next pos =>
        have : rank.log2 < 52 := (Nat.log2_lt pos).mpr small
        omega
    have none : bitLength rank - 53 = 0 := by omega
    have exact := Rounding.halfEven_exact rank 1 (by decide)
    rw [Nat.mul_one] at exact
    simp only [magnitude, small, if_true, none, Nat.zero_mul, Nat.zero_add, Nat.pow_eq,
      Nat.pow_zero, Nat.mul_one]
    exact exact
  · let s := rank / binade - 1
    let f := rank % binade
    have whole : rank = (s + 1) * binade + f := by
      have pos : 1 ≤ rank / binade := Nat.div_pos (Nat.not_lt.mp small) (by decide)
      have succ : s + 1 = rank / binade := Nat.sub_add_cancel pos
      rw [succ, Nat.mul_comm]
      exact (Nat.div_add_mod rank binade).symm
    have fits : f < binade := Nat.mod_lt _ (by decide)
    have power : 0 < 2 ^ s := Nat.two_pow_pos s
    have mag : magnitude rank = (binade + f) * 2 ^ s := by
      simp [magnitude, small, s, f]
    have bits : bitLength (magnitude rank) = 52 + s + 1 := by
      apply bitLength_of_bounds
      · rw [mag, Nat.pow_add]
        exact Nat.mul_le_mul_right _ (Nat.le_add_right binade f)
      · have : 52 + s + 1 = 53 + s := by omega
        rw [mag, this, Nat.pow_add]
        exact Nat.mul_lt_mul_of_pos_right (by simp only [binade] at fits ⊢; omega) power
    have excess : 52 + s + 1 - 53 = s := by omega
    rw [bits, excess, mag, Nat.one_mul]
    have exact := Rounding.halfEven_exact (binade + f) (2 ^ s) power
    simp only [Nat.pow_eq, exact]
    rw [whole]
    simp only [Nat.add_mul, Nat.one_mul, Nat.add_assoc]

theorem ofUnits_magnitude (negative : Bool) (rank : Fin rankCount) (k : Nat) (hk : 0 < k) :
    ofUnits negative (magnitude rank * k) k = .finite negative rank := by
  rw [ofUnits, nearestRank_magnitude _ _ hk, ofRank, dif_pos rank.isLt]

theorem ofUnits_mul (negative : Bool) (num den k : Nat) (hk : 0 < k) :
    ofUnits negative (num * k) (den * k) = ofUnits negative num den := by
  rw [ofUnits, nearestRank_mul _ _ _ hk, ofUnits]

theorem ofUnits_eq_finite (negative : Bool) (num den : Nat) (rank : Fin rankCount) :
    ofUnits negative num den = .finite negative rank ↔ nearestRank num den = rank := by
  unfold ofUnits ofRank
  split
  · simp [Fin.ext_iff]
  · next large =>
    refine ⟨fun other => (by cases other), fun same => ?_⟩
    exact absurd (same ▸ rank.isLt) large

theorem ofDecimal_eq_finite (negative : Bool) (digits : Nat) (exponent : Int)
    (rank : Fin rankCount) :
    ofDecimal negative digits exponent = .finite negative rank ↔
      ofDecimal false digits exponent = .finite false rank := by
  unfold ofDecimal ofRatio
  split
  · simp [zero]
  · split
    · simp
    · split <;> simp only [ofUnits_eq_finite]

theorem ofDecimal_fraction (negative : Bool) (digits e : Nat)
    (plain : ¬(digits = 0 ∨ Int.negSucc e + bitLength digits < -330)) :
    ofDecimal negative digits (.negSucc e) =
      ofUnits negative (digits * unitsPerOne) (Nat.pow 10 (e + 1)) := by
  unfold ofDecimal
  rw [if_neg plain, if_neg (by omega)]
  rfl

theorem ofDecimal_whole (negative : Bool) {digits k : Nat} (nonzero : digits ≠ 0)
    (small : k < 310) :
    ofDecimal negative digits k = ofUnits negative (digits * Nat.pow 10 k * unitsPerOne) 1 := by
  have plain : ¬(digits = 0 ∨ (k : Int) + bitLength digits < -330) := by omega
  unfold ofDecimal
  rw [if_neg plain, if_neg (by omega)]
  rfl

theorem ofDecimal_zeros (negative : Bool) {digits k : Nat} (nonzero : digits ≠ 0)
    (small : k < 310) :
    ofDecimal negative (digits * 10 ^ k * 10) (-1) = ofDecimal negative digits k := by
  have plain : ¬(digits * 10 ^ k * 10 = 0 ∨
      Int.negSucc 0 + bitLength (digits * 10 ^ k * 10) < -330) := by
    have := Nat.pow_pos (n := k) (show 0 < 10 by decide)
    have := Nat.mul_pos (Nat.pos_of_ne_zero nonzero) this
    omega
  have scale := ofUnits_mul negative (digits * Nat.pow 10 k * unitsPerOne) 1 10 (by decide)
  rw [ofDecimal_whole negative nonzero small, ← scale]
  have moved : digits * 10 ^ k * 10 * unitsPerOne = digits * 10 ^ k * unitsPerOne * 10 :=
    Nat.mul_right_comm ..
  exact (ofDecimal_fraction negative _ 0 plain).trans (by rw [moved]; rfl)

theorem magnitude_pos {rank : Nat} (hr : rank ≠ 0) : 0 < magnitude rank := by
  unfold magnitude
  split
  · omega
  · exact Nat.mul_pos (by simp only [binade]; omega) (Nat.two_pow_pos _)

theorem le_bitLength {n k : Nat} (h : 2 ^ k ≤ n) : k + 1 ≤ bitLength n := by
  have nonzero : n ≠ 0 := by
    have := Nat.two_pow_pos k
    omega
  rw [bitLength, if_neg nonzero]
  exact Nat.succ_le_succ ((Nat.le_log2 nonzero).mpr h)

/-- A grid that is as fine as the units holds each magnitude. -/
theorem ofDecimal_magnitude (rank : Fin rankCount) (hr : rank.val ≠ 0) (n : Nat)
    (finest : 1074 = n) :
    ofDecimal false (magnitude rank * Nat.pow 5 n) (-n) = .finite false rank := by
  have units : unitsPerOne = Nat.pow 2 n := by
    unfold unitsPerOne
    exact congrArg _ finest
  obtain ⟨k, rfl⟩ : ∃ k, n = k + 1 := ⟨n - 1, by omega⟩
  have pos := magnitude_pos hr
  have large : 2 ^ (k + 1) ≤ magnitude rank * Nat.pow 5 (k + 1) :=
    Nat.le_trans (Nat.pow_le_pow_left (by decide) _) (Nat.le_mul_of_pos_left _ pos)
  have bits := le_bitLength large
  have plain : ¬(magnitude rank * Nat.pow 5 (k + 1) = 0 ∨
      Int.negSucc k + bitLength (magnitude rank * Nat.pow 5 (k + 1)) < -330) := by
    have := Nat.two_pow_pos (k + 1)
    omega
  have ten : Nat.pow 5 (k + 1) * Nat.pow 2 (k + 1) = Nat.pow 10 (k + 1) :=
    (Nat.mul_pow 5 2 (k + 1)).symm
  have exact := ofDecimal_fraction false _ _ plain
  rw [units, Nat.mul_assoc, ten] at exact
  exact exact.trans (ofUnits_magnitude false rank _ (Nat.pow_pos (by decide)))

theorem shortestFrom_reads (tie : Tie) (rank : Fin rankCount) (hr : rank.val ≠ 0) (n : Nat) :
    ofDecimal false (shortestFrom tie rank n).1 (shortestFrom tie rank n).2 =
      .finite false rank := by
  induction n with
  | zero =>
    unfold shortestFrom
    generalize finest : 1074 = n
    have power : (-1074 : Int) = -n := by omega
    rw [power]
    exact ofDecimal_magnitude rank hr n finest
  | succ n ih =>
    simp only [shortestFrom]
    split
    · next d found => simpa using List.find?_some found
    · exact ih

/-- The shortest decimal reads back, with either sign. -/
theorem shortest_reads (tie : Tie) (negative : Bool) (rank : Fin rankCount) (hr : rank.val ≠ 0) :
    ofDecimal negative (shortest tie rank).1 (shortest tie rank).2 = .finite negative rank :=
  (ofDecimal_eq_finite _ _ _ _).mpr (shortestFrom_reads tie rank hr _)

end Double
end RecordFilter
