import Mathlib
import RecordFilter.Numeral

namespace RecordFilter.Numeral

theorem digit_cases : ∀ d < 10, isDigit (digitChar d) = true ∧ digitValue (digitChar d) = d := by
  decide

theorem isDigit_digitChar (n : Nat) : isDigit (digitChar n) = true := by
  have same : digitChar n = digitChar (n % 10) := by simp [digitChar]
  rw [same]
  exact (digit_cases _ (Nat.mod_lt n (by decide))).1

theorem digitValue_digitChar (n : Nat) : digitValue (digitChar n) = n % 10 := by
  have same : digitChar n = digitChar (n % 10) := by simp [digitChar]
  rw [same]
  exact (digit_cases _ (Nat.mod_lt n (by decide))).2

theorem value_concat (ds : List Char) (d : Char) :
    value (ds ++ [d]) = 10 * value ds + digitValue d := by
  simp [value]

theorem value_append_zeros (ds : List Char) (n : Nat) :
    value (ds ++ List.replicate n '0') = value ds * 10 ^ n := by
  induction n with
  | zero => simp
  | succ n ih =>
    rw [List.replicate_succ', ← List.append_assoc, value_concat, ih]
    have zero : digitValue '0' = 0 := by decide
    rw [zero, Nat.pow_succ, Nat.add_zero, Nat.mul_comm 10, Nat.mul_assoc]

theorem value_zero_cons (ds : List Char) : value ('0' :: ds) = value ds := by
  simp [value, digitValue]

theorem value_zeros_append (n : Nat) (ds : List Char) :
    value (List.replicate n '0' ++ ds) = value ds := by
  induction n with
  | zero => rfl
  | succ n ih => rw [List.replicate_succ, List.cons_append, value_zero_cons, ih]

theorem value_ofNat (n : Nat) : value (ofNat n) = n := by
  induction n using Nat.strongRecOn with
  | ind n ih =>
    rw [ofNat]
    split
    · next small =>
      have one : value [digitChar n] = digitValue (digitChar n) := by simp [value]
      rw [one, digitValue_digitChar]
      omega
    · next large =>
      rw [value_concat, ih (n / 10) (by omega), digitValue_digitChar]
      omega

theorem all_ofNat (n : Nat) : ∀ c ∈ ofNat n, isDigit c = true := by
  induction n using Nat.strongRecOn with
  | ind n ih =>
    rw [ofNat]
    split
    · intro c hc
      obtain rfl := List.mem_singleton.mp hc
      exact isDigit_digitChar n
    · next large =>
      intro c hc
      rcases List.mem_append.mp hc with hc | hc
      · exact ih (n / 10) (by omega) c hc
      · obtain rfl := List.mem_singleton.mp hc
        exact isDigit_digitChar n

theorem ofNat_ne_nil (n : Nat) : ofNat n ≠ [] := by
  rw [ofNat]
  split <;> simp

end RecordFilter.Numeral
