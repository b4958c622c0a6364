import RecordFilter.Proofs.Double.ReadBack
import RecordFilter.Proofs.Token.Number

namespace RecordFilter.Double

open Numeral (IsRun)

/-- A text in the form that the lexer reads as a double, and the number it is read as. -/
def Written (negative : Bool) (text : List Char) (x : Double) : Prop :=
  ∃ f : Figures, (f.fraction.isSome ∨ f.exponent.isSome) ∧
    Figures.sign negative ++ text = f.chars negative ∧ f.amount negative = x

theorem written_plain (negative : Bool) {whole fraction : List Char} (hw : IsRun whole)
    (hf : IsRun fraction) :
    Written negative (whole ++ '.' :: fraction)
      (ofDecimal negative (Numeral.value (whole ++ fraction)) (-fraction.length)) := by
  have run : ∀ f ∈ some fraction, IsRun f := by
    rintro f ⟨⟩
    exact hf
  refine ⟨⟨whole, some fraction, none, hw, run, by simp⟩, .inl rfl, ?_, ?_⟩
  · simp [Figures.chars, Figures.fractionChars, Figures.exponentChars]
  · have none : signed false (Numeral.value []) - fraction.length = -fraction.length := by
      simp [signed, Numeral.value]
    simp only [Figures.amount, Option.getD_none, Option.getD_some, none]

theorem written_scientific (negative : Bool) (d : Char) (ds : List Char) (run : IsRun (d :: ds))
    (power : Int) :
    Written negative
      ((match d :: ds with | d :: e :: r => d :: '.' :: e :: r | ds => ds) ++
        'e' :: Numeral.ofInt power)
      (ofDecimal negative (Numeral.value (d :: ds)) (power - ds.length)) := by
  have digit : ∀ c ∈ [d], Numeral.isDigit c = true := fun c hc => run.2 c (by simp_all)
  have exponent : ∀ e ∈ some (decide (power < 0), Numeral.ofNat power.natAbs), IsRun e.2 := by
    rintro e ⟨⟩
    exact Numeral.isRun_ofNat _
  have marked : 'e' :: Numeral.ofInt power =
      Figures.mark (decide (power < 0)) ++ Numeral.ofNat power.natAbs := by
    by_cases minus : power < 0 <;>
      simp [Numeral.ofInt, Figures.mark, Figures.sign, minus]
  have amount :
      signed (decide (power < 0)) (Numeral.value (Numeral.ofNat power.natAbs)) = power := by
    rw [Numeral.value_ofNat, signed_natAbs]
  cases ds with
  | nil =>
    refine ⟨⟨[d], none, some _, ⟨by simp, digit⟩, by simp, exponent⟩, .inr rfl, ?_, ?_⟩
    · simp [Figures.chars, Figures.fractionChars, Figures.exponentChars, marked]
    · simp [Figures.amount, amount]
  | cons e r =>
    have fraction : ∀ f ∈ some (e :: r), IsRun f := by
      rintro f ⟨⟩
      exact ⟨by simp, fun c hc => run.2 c (by simp_all)⟩
    refine ⟨⟨[d], some (e :: r), some _, ⟨by simp, digit⟩, fraction, exponent⟩, .inl rfl, ?_, ?_⟩
    · simp [Figures.chars, Figures.fractionChars, Figures.exponentChars, marked]
    · simp [Figures.amount, amount]

/-- A decimal is laid out so that it is read as the same decimal. -/
theorem written_decimal (negative : Bool) {n : Nat} (nonzero : n ≠ 0) (e : Int) :
    Written negative (filterLayout.decimal (Numeral.ofNat n) e) (ofDecimal negative n e) := by
  have run := Numeral.isRun_ofNat n
  have value := Numeral.value_ofNat n
  obtain ⟨d, ds, digits⟩ := run.cons
  have length : (Numeral.ofNat n).length = ds.length + 1 := by rw [digits]; rfl
  obtain ⟨power, sum⟩ : ∃ power, e + (Numeral.ofNat n).length - 1 = power := ⟨_, rfl⟩
  simp only [Layout.decimal, sum]
  by_cases plain : filterLayout.leastPlain ≤ power ∧ power < filterLayout.pastPlain
  · rw [if_pos plain]
    have below : power < 16 := plain.2
    by_cases whole : 0 ≤ e
    · rw [if_pos whole]
      have small : e.toNat < 310 := by omega
      have zeros : ∀ c ∈ List.replicate e.toNat '0', Numeral.isDigit c = true :=
        fun c => Numeral.isDigit_of_mem_zeros
      have written := written_plain negative (Numeral.isRun_append run zeros) Numeral.isRun_zero
      have shifted : Numeral.value (Numeral.ofNat n ++ List.replicate e.toNat '0' ++ ['0']) =
          n * 10 ^ e.toNat * 10 := by
        have inner := Numeral.value_append_zeros (Numeral.ofNat n) e.toNat
        have outer := Numeral.value_append_zeros (Numeral.ofNat n ++ List.replicate e.toNat '0') 1
        rw [inner, value, Nat.pow_one] at outer
        exact outer
      have same := ofDecimal_zeros negative nonzero small
      rw [Int.toNat_of_nonneg whole] at same
      rw [shifted] at written
      exact same ▸ written
    · rw [if_neg whole]
      by_cases point : 0 ≤ power
      · rw [if_pos point]
        let k := power.toNat + 1
        have low : 0 < k := Nat.succ_pos _
        have high : k < (Numeral.ofNat n).length := by omega
        have before : IsRun ((Numeral.ofNat n).take k) := by
          refine ⟨by simp [run.1, k], fun c hc => run.2 c (List.mem_of_mem_take hc)⟩
        have behind : IsRun ((Numeral.ofNat n).drop k) := by
          refine ⟨by simpa using high, fun c hc => run.2 c (List.mem_of_mem_drop hc)⟩
        have written := written_plain negative before behind
        have count : -(((Numeral.ofNat n).drop k).length : Int) = e := by
          rw [List.length_drop]
          omega
        rw [List.take_append_drop, value, count] at written
        exact written
      · rw [if_neg point]
        let zeros := List.replicate (-power - 1).toNat '0'
        have fraction : IsRun (zeros ++ Numeral.ofNat n) := by
          refine ⟨by simp [run.1], fun c hc => ?_⟩
          rcases List.mem_append.mp hc with hc | hc
          · exact Numeral.isDigit_of_mem_zeros hc
          · exact run.2 c hc
        have written := written_plain negative Numeral.isRun_zero fraction
        have count : -((zeros ++ Numeral.ofNat n).length : Int) = e := by
          rw [List.length_append, List.length_replicate]
          omega
        have same : Numeral.value (['0'] ++ (zeros ++ Numeral.ofNat n)) = n := by
          rw [List.singleton_append, Numeral.value_zero_cons, Numeral.value_zeros_append, value]
        rw [same, count] at written
        exact written
  · rw [if_neg plain]
    have written := written_scientific negative d ds (digits ▸ run) power
    have count : power - ds.length = e := by omega
    rw [← digits, value, count] at written
    have unsigned : ¬(0 ≤ power ∧ filterLayout.plus = true) := by simp [filterLayout]
    rw [if_neg unsigned, List.append_assoc]
    exact written

theorem written_finite (negative : Bool) (rank : Fin rankCount) :
    Written negative (filterLayout.magnitude rank) (.finite negative rank) := by
  unfold Layout.magnitude
  split
  · next none =>
    have written := written_plain negative Numeral.isRun_zero Numeral.isRun_zero
    have zero : ofDecimal negative 0 (-1) = .finite negative rank := by
      have same : rank = ⟨0, by decide⟩ := Fin.ext none
      rw [same]
      rfl
    exact zero ▸ written
  · next some =>
    have reads := shortest_reads filterLayout.tie negative rank some
    have nonzero : (shortest filterLayout.tie rank).1 ≠ 0 := by
      intro none
      unfold ofDecimal at reads
      rw [if_pos (.inl none), zero] at reads
      injection reads with _ same
      exact some (congrArg Fin.val same.symm)
    exact reads ▸ written_decimal negative nonzero _

end RecordFilter.Double
