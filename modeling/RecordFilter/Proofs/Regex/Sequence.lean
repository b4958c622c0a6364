import RecordFilter.Proofs.Regex.Matching
import RecordFilter.Regex.Normal

namespace RecordFilter.Regex

variable {text : Array Char}

/-- The expressions match one after the other, from the first place to the second. -/
def SpansAll (text : Array Char) : List Regex → Nat → Nat → Prop
  | [], i, k => i = k
  | r :: rs, i, k => ∃ j, Spans text r i j ∧ SpansAll text rs j k

theorem spansAll_append {rs rs' : List Regex} {i k : Nat} :
    SpansAll text (rs ++ rs') i k ↔ ∃ j, SpansAll text rs i j ∧ SpansAll text rs' j k := by
  induction rs generalizing i with
  | nil => simp [SpansAll]
  | cons r rs ih =>
    simp only [List.cons_append, SpansAll, ih]
    constructor
    · rintro ⟨j, first, j', others, more⟩
      exact ⟨j', ⟨j, first, others⟩, more⟩
    · rintro ⟨j', ⟨j, first, others⟩, more⟩
      exact ⟨j, first, j', others, more⟩

theorem spansAll_singleton {r : Regex} {i k : Nat} : SpansAll text [r] i k ↔ Spans text r i k := by
  simp [SpansAll]

theorem spansAll_factors (r : Regex) {i k : Nat} :
    SpansAll text r.factors i k ↔ Spans text r i k := by
  induction r generalizing i k with
  | empty => exact spans_empty_iff.symm
  | seq a b ih ih' => simp only [factors, spansAll_append, ih, ih', spans_seq_iff]
  | _ => exact spansAll_singleton

theorem spansAll_flatMap_factors (rs : List Regex) {i k : Nat} :
    SpansAll text (rs.flatMap factors) i k ↔ SpansAll text rs i k := by
  induction rs generalizing i with
  | nil => rfl
  | cons r rs ih => simp only [List.flatMap_cons, spansAll_append, spansAll_factors, ih, SpansAll]

theorem spans_literal_append_iff {cs ds : List Char} {i k : Nat} :
    Spans text (literal (cs ++ ds)) i k ↔
      ∃ j, Spans text (literal cs) i j ∧ Spans text (literal ds) j k := by
  induction cs generalizing i with
  | nil => simp [spans_literal_iff]
  | cons c cs ih =>
    simp only [List.cons_append, spans_literal_cons_iff, ih, and_assoc, exists_and_left]

theorem joinLiterals_cons (r : Regex) (rs : List Regex) :
    (∃ cs ds rest, r = literal cs ∧ joinLiterals rs = literal ds :: rest ∧
      joinLiterals (r :: rs) = literal (cs ++ ds) :: rest) ∨
    joinLiterals (r :: rs) = r :: joinLiterals rs := by
  generalize whole : joinLiterals (r :: rs) = joined
  unfold joinLiterals at whole
  split at whole
  · next cs ds rest others => exact .inl ⟨cs, ds, rest, rfl, others, whole.symm⟩
  · exact .inr whole.symm

theorem spansAll_joinLiterals (rs : List Regex) {i k : Nat} :
    SpansAll text (joinLiterals rs) i k ↔ SpansAll text rs i k := by
  induction rs generalizing i with
  | nil => rfl
  | cons r rs ih =>
    simp only [SpansAll, ← ih]
    rcases joinLiterals_cons r rs with ⟨cs, ds, rest, rfl, others, joined⟩ | joined
    · rw [joined]
      simp only [others, SpansAll, spans_literal_append_iff]
      constructor
      · rintro ⟨j, ⟨j', first, second⟩, more⟩
        exact ⟨j', first, j, second, more⟩
      · rintro ⟨j', first, j, second, more⟩
        exact ⟨j, ⟨j', first, second⟩, more⟩
    · rw [joined, SpansAll]

theorem spans_seqAll (rs : List Regex) {i k : Nat} :
    Spans text (seqAll rs) i k ↔ SpansAll text rs i k := by
  induction rs generalizing i with
  | nil => exact spans_empty_iff
  | cons r rs ih =>
    cases rs with
    | nil => exact spansAll_singleton.symm
    | cons r' rs =>
      show Spans text (seq r (seqAll (r' :: rs))) i k ↔ _
      simp only [spans_seq_iff, ih, SpansAll]

theorem spans_sequence (rs : List Regex) {i k : Nat} :
    Spans text (sequence rs) i k ↔ SpansAll text rs i k := by
  rw [sequence, spans_seqAll, spansAll_joinLiterals, spansAll_flatMap_factors]

theorem Countable.factors {r : Regex} (countable : r.Countable) : ∀ f ∈ r.factors, f.Countable := by
  induction r with
  | empty => exact fun f member => absurd member List.not_mem_nil
  | seq a b ih ih' =>
    intro f member
    rcases List.mem_append.mp member with here | there
    · exact ih countable.1 f here
    · exact ih' countable.2 f there
  | _ =>
    intro f member
    obtain rfl := List.mem_singleton.mp member
    exact countable

theorem countable_joinLiterals {rs : List Regex} (countable : ∀ r ∈ rs, r.Countable) :
    ∀ r ∈ joinLiterals rs, r.Countable := by
  induction rs with
  | nil => exact countable
  | cons r rs ih =>
    obtain ⟨first, others⟩ := List.forall_mem_cons.mp countable
    have others := ih others
    rcases joinLiterals_cons r rs with ⟨cs, ds, rest, -, after, joined⟩ | joined
    · rw [after] at others
      rw [joined]
      exact List.forall_mem_cons.mpr ⟨trivial, (List.forall_mem_cons.mp others).2⟩
    · rw [joined]
      exact List.forall_mem_cons.mpr ⟨first, others⟩

theorem countable_seqAll {rs : List Regex} (countable : ∀ r ∈ rs, r.Countable) :
    (seqAll rs).Countable := by
  induction rs with
  | nil => trivial
  | cons r rs ih =>
    obtain ⟨first, others⟩ := List.forall_mem_cons.mp countable
    cases rs with
    | nil => exact first
    | cons r' rs => exact ⟨first, ih others⟩

theorem countable_sequence {rs : List Regex} (countable : ∀ r ∈ rs, r.Countable) :
    (sequence rs).Countable := by
  refine countable_seqAll (countable_joinLiterals fun f member => ?_)
  obtain ⟨r, among, part⟩ := List.mem_flatMap.mp member
  exact (countable r among).factors f part

end RecordFilter.Regex
