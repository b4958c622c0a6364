import Mathlib
import RecordFilter.Regex.Basic

namespace RecordFilter.Regex

/-- A chain of `n` steps from the first place to the second. -/
inductive Rounds (R : Nat → Nat → Prop) : Nat → Nat → Nat → Prop where
  | zero (i : Nat) : Rounds R 0 i i
  | succ {n i j k : Nat} (first : R i j) (others : Rounds R n j k) : Rounds R (n + 1) i k

namespace Rounds

variable {R : Nat → Nat → Prop} {n i j k : Nat}

theorem zero_iff : Rounds R 0 i j ↔ i = j := by
  constructor
  · intro h
    cases h
    rfl
  · rintro rfl
    exact .zero i

theorem succ_iff : Rounds R (n + 1) i k ↔ ∃ j, R i j ∧ Rounds R n j k := by
  constructor
  · intro h
    cases h with
    | succ first others => exact ⟨_, first, others⟩
  · rintro ⟨j, first, others⟩
    exact .succ first others

theorem add_iff {m : Nat} :
    Rounds R (n + m) i k ↔ ∃ j, Rounds R n i j ∧ Rounds R m j k := by
  induction n generalizing i with
  | zero => simp [zero_iff]
  | succ n ih =>
    rw [Nat.succ_add, succ_iff]
    simp only [ih, succ_iff]
    constructor
    · rintro ⟨j, first, j', others, more⟩
      exact ⟨j', ⟨j, first, others⟩, more⟩
    · rintro ⟨j', ⟨j, first, others⟩, more⟩
      exact ⟨j, first, j', others, more⟩

theorem one_iff : Rounds R 1 i j ↔ R i j := by
  simp [succ_iff, zero_iff]

/-- Steps that only go forward, and within the text. -/
def Forward (size : Nat) (R : Nat → Nat → Prop) : Prop :=
  ∀ i j, R i j → i = j ∨ i < j ∧ j ≤ size

variable {size : Nat}

theorem forward (steps : Forward size R) (n : Nat) : Forward size (Rounds R n) := by
  induction n with
  | zero => exact fun i j h => .inl (zero_iff.mp h)
  | succ n ih =>
    intro i k h
    obtain ⟨j, first, others⟩ := succ_iff.mp h
    rcases steps i j first with rfl | ⟨before, inside⟩
    · exact ih i k others
    · rcases ih j k others with rfl | ⟨before', inside'⟩
      · exact .inr ⟨before, inside⟩
      · exact .inr ⟨before.trans before', inside'⟩

/-- Either each round moves on, or one of them can be taken away or made twice. -/
theorem moves_or_repeats (steps : Forward size R) (h : Rounds R n i j) :
    i + n ≤ j ∨ 0 < n ∧ Rounds R (n - 1) i j ∧ Rounds R (n + 1) i j := by
  induction h with
  | zero i => exact .inl (Nat.le_refl i)
  | @succ n i j k first others ih =>
    rcases steps i j first with rfl | ⟨before, -⟩
    · exact .inr ⟨n.succ_pos, others, .succ first (.succ first others)⟩
    · rcases ih with moved | ⟨some, fewer, more⟩
      · exact .inl (by omega)
      · refine .inr ⟨n.succ_pos, ?_, .succ first more⟩
        obtain ⟨m, rfl⟩ := Nat.exists_eq_succ_of_ne_zero (Nat.ne_of_gt some)
        exact .succ first fewer

/-- Of more rounds than the text has places, the number does not matter. -/
theorem congr_of_size_lt (steps : Forward size R) {m : Nat} (many : size < n) (many' : size < m) :
    Rounds R n i j ↔ Rounds R m i j := by
  have idle {n : Nat} (h : Rounds R n i j) (many : size < n) :
      Rounds R (n - 1) i j ∧ Rounds R (n + 1) i j := by
    rcases moves_or_repeats steps h with moved | ⟨-, repeats⟩
    · rcases forward steps n i j h with rfl | ⟨-, inside⟩ <;> omega
    · exact repeats
  have least (n : Nat) (many : size + 1 ≤ n) : Rounds R n i j ↔ Rounds R (size + 1) i j := by
    induction n, many using Nat.le_induction with
    | base => rfl
    | succ n many ih =>
      have next : Rounds R (n + 1) i j ↔ Rounds R n i j :=
        ⟨fun h => (idle h (many.trans n.le_succ)).1, fun h => (idle h many).2⟩
      exact next.trans ih
  exact (least n many).trans (least m many').symm

theorem capped_iff (steps : Forward size R) {least : Nat} {limit : Option Nat}
    (room : ∀ m ∈ limit, least ≤ m) (i j : Nat) :
    (∃ m ≤ limit.elim (size + 1) fun l => min (l - least) (size + 1),
        Rounds R (min least (size + 1) + m) i j) ↔
      ∃ n, least ≤ n ∧ (∀ l ∈ limit, n ≤ l) ∧ Rounds R n i j := by
  constructor
  · rintro ⟨m, few, rounds⟩
    have counted : Rounds R (least + m) i j := by
      rcases Nat.lt_or_ge (size + 1) least with big | small
      · rw [Nat.min_eq_right big.le] at rounds
        exact (congr_of_size_lt steps (by omega) (by omega)).mp rounds
      · rwa [Nat.min_eq_left small] at rounds
    refine ⟨least + m, Nat.le_add_right .., fun l bound => ?_, counted⟩
    cases bound
    have := room l rfl
    dsimp only [Option.elim] at few
    omega
  · rintro ⟨n, enough, fits, rounds⟩
    by_cases few : n - min least (size + 1) ≤
        limit.elim (size + 1) fun l => min (l - least) (size + 1)
    · exact ⟨n - min least (size + 1), few, by rwa [Nat.add_sub_cancel' (by omega)]⟩
    · have many : size < n ∧ size < min least (size + 1) +
          limit.elim (size + 1) fun l => min (l - least) (size + 1) := by
        cases limit with
        | none =>
          dsimp only [Option.elim] at few ⊢
          omega
        | some l =>
          have := fits l rfl
          dsimp only [Option.elim] at few ⊢
          omega
      exact ⟨_, Nat.le_refl _, (congr_of_size_lt steps many.1 many.2).mp rounds⟩

end Rounds

theorem mem_merge {is js : List Nat} {k : Nat} : k ∈ merge is js ↔ k ∈ is ∨ k ∈ js := by
  induction is, js using merge.induct with
  | case1 js => simp [merge]
  | case2 is nonempty => simp [merge]
  | case3 i is j js before ih => simp [merge, before, ih, or_assoc]
  | case4 i is j js before after ih => simp [merge, before, after, ih, or_left_comm]
  | case5 i is j js before after ih =>
    obtain rfl : i = j := by omega
    simp only [merge, before, if_false, List.mem_cons, ih]
    tauto

theorem mem_advance {text : Array Char} {p : Char → Bool} {is : List Nat} {j : Nat} :
    j ∈ advance text p is ↔ ∃ i ∈ is, ∃ c, text[i]? = some c ∧ p c = true ∧ i + 1 = j := by
  simp only [advance, List.mem_filterMap]
  refine exists_congr fun i => and_congr_right fun _ => ?_
  cases text[i]? <;> simp

section Reach

variable {R : Nat → Nat → Prop} {round : List Nat → List Nat}

def Reaches (R : Nat → Nat → Prop) (round : List Nat → List Nat) : Prop :=
  ∀ is j, j ∈ round is ↔ ∃ i ∈ is, R i j

theorem Reaches.comp {R' : Nat → Nat → Prop} {round' : List Nat → List Nat}
    (first : Reaches R round) (others : Reaches R' round') :
    Reaches (fun i k => ∃ j, R i j ∧ R' j k) fun is => round' (round is) := by
  intro is k
  rw [others]
  constructor
  · rintro ⟨j, reached, after⟩
    obtain ⟨i, start, before⟩ := (first is j).mp reached
    exact ⟨i, start, j, before, after⟩
  · rintro ⟨i, start, j, before, after⟩
    exact ⟨j, (first is j).mpr ⟨i, start, before⟩, after⟩

theorem Reaches.repeat (reaches : Reaches R round) (n : Nat) :
    Reaches (Rounds R n) (Nat.repeat round n) := by
  induction n with
  | zero =>
    intro is j
    simp [Nat.repeat, Rounds.zero_iff]
  | succ n ih =>
    intro is j
    simpa only [Nat.repeat, Rounds.add_iff, Rounds.one_iff] using ih.comp reaches is j

/-- The search spreads from the places found in the last round only. It misses nothing because those
found before lead to places that are known. -/
theorem mem_spread (reaches : Reaches R round) (n : Nat) {fresh seen : List Nat}
    (known : ∀ i ∈ fresh, i ∈ seen)
    (closed : ∀ i ∈ seen, i ∉ fresh → ∀ j, R i j → j ∈ seen) (j : Nat) :
    j ∈ spread round n fresh seen ↔ j ∈ seen ∨ ∃ i ∈ fresh, ∃ m ≤ n, Rounds R m i j := by
  induction n generalizing fresh seen with
  | zero =>
    simp only [spread, Nat.le_zero, exists_eq_left, Rounds.zero_iff]
    exact ⟨.inl, fun h => h.elim id fun ⟨i, start, same⟩ => same ▸ known i start⟩
  | succ n ih =>
    have next (k : Nat) : k ∈ (round fresh).filter (!seen.contains ·) ↔
        (∃ i ∈ fresh, R i k) ∧ k ∉ seen := by
      simp [List.mem_filter, reaches fresh k]
    have outward {i k : Nat} (start : i ∈ seen) (step : R i k) :
        k ∈ seen ∨ k ∈ (round fresh).filter (!seen.contains ·) := by
      by_cases old : k ∈ seen
      · exact .inl old
      · by_cases recent : i ∈ fresh
        · exact .inr ((next k).mpr ⟨⟨i, recent, step⟩, old⟩)
        · exact .inl (closed i start recent k step)
    rw [spread]
    generalize (round fresh).filter (!seen.contains ·) = found at next outward
    -- a chain from a known place stays among these until it takes a place of the next round
    have follow {m i : Nat} (rounds : Rounds R m i j) (start : i ∈ seen) (few : m ≤ n + 1) :
        j ∈ seen ∨ ∃ k ∈ found, ∃ m ≤ n, Rounds R m k j := by
      induction m generalizing i with
      | zero => exact .inl (Rounds.zero_iff.mp rounds ▸ start)
      | succ m ih =>
        obtain ⟨k, step, others⟩ := Rounds.succ_iff.mp rounds
        rcases outward start step with old | new
        · exact ih others old (by omega)
        · exact .inr ⟨k, new, m, by omega, others⟩
    have goal : (j ∈ seen ∨ ∃ k ∈ found, ∃ m ≤ n, Rounds R m k j) ↔
        j ∈ seen ∨ ∃ i ∈ fresh, ∃ m ≤ n + 1, Rounds R m i j := by
      constructor
      · rintro (old | ⟨k, new, m, few, rounds⟩)
        · exact .inl old
        · obtain ⟨⟨i, start, step⟩, -⟩ := (next k).mp new
          exact .inr ⟨i, start, m + 1, Nat.succ_le_succ few, .succ step rounds⟩
      · rintro (old | ⟨i, start, m, few, rounds⟩)
        · exact .inl old
        · exact follow rounds (known i start) few
    rw [← goal]
    cases found with
    | nil => simp
    | cons k ks =>
      have known' : ∀ i ∈ k :: ks, i ∈ merge seen (k :: ks) := fun i new => mem_merge.mpr (.inr new)
      have closed' : ∀ i ∈ merge seen (k :: ks), i ∉ k :: ks → ∀ j, R i j →
          j ∈ merge seen (k :: ks) := by
        intro i member old j step
        have start := (mem_merge.mp member).resolve_right old
        exact mem_merge.mpr (outward start step)
      rw [ih known' closed', mem_merge, or_assoc]
      refine or_congr_right ⟨fun h => ?_, .inr⟩
      rcases h with new | reached
      · exact ⟨j, new, 0, Nat.zero_le n, .zero j⟩
      · exact reached

theorem Reaches.spread (reaches : Reaches R round) (n : Nat) :
    Reaches (fun i j => ∃ m ≤ n, Rounds R m i j) fun start => Regex.spread round n start start := by
  intro start j
  rw [mem_spread reaches n (fun _ => id) fun _ member other => absurd member other]
  refine ⟨fun h => ?_, .inr⟩
  rcases h with here | reached
  · exact ⟨j, here, 0, n.zero_le, .zero j⟩
  · exact reached

end Reach

/-- Every repetition in the expression has room for its least number of rounds. -/
def Countable : Regex → Prop
  | seq a b | alt a b => a.Countable ∧ b.Countable
  | times a least limit _ => a.Countable ∧ ∀ m ∈ limit, least ≤ m
  | group _ a => a.Countable
  | _ => True

section Spans

variable {text : Array Char}

theorem spans_times_iff {a : Regex} {least : Nat} {limit : Option Nat} {lazy : Bool} {i k : Nat} :
    Spans text (times a least limit lazy) i k ↔
      ∃ n, least ≤ n ∧ (∀ m ∈ limit, n ≤ m) ∧ Rounds (Spans text a) n i k := by
  constructor
  · intro h
    generalize whole : times a least limit lazy = r at h
    induction h generalizing least limit with
    | stop a limit lazy i =>
      cases whole
      exact ⟨0, Nat.le_refl 0, fun m _ => m.zero_le, .zero i⟩
    | more a least limit lazy i j k some first others _ ih =>
      cases whole
      obtain ⟨n, enough, fits, rounds⟩ := ih rfl
      refine ⟨n + 1, by omega, fun m bound => ?_, .succ first rounds⟩
      cases bound
      have fits := fits (m - 1) rfl
      have positive : m ≠ 0 := fun zero => some (congrArg Option.some zero)
      omega
    | _ => cases whole
  · rintro ⟨n, enough, fits, rounds⟩
    induction n generalizing least limit i with
    | zero =>
      obtain rfl := Nat.le_zero.mp enough
      obtain rfl := Rounds.zero_iff.mp rounds
      exact .stop a limit lazy i
    | succ n ih =>
      obtain ⟨j, first, others⟩ := Rounds.succ_iff.mp rounds
      have some : limit ≠ some 0 := fun zero => absurd (fits 0 zero) (Nat.not_succ_le_zero n)
      refine .more a least limit lazy i j k some first (ih (by omega) ?_ others)
      intro m bound
      obtain ⟨m', bound', rfl⟩ := Option.map_eq_some_iff.mp bound
      have fits := fits m' bound'
      omega

theorem forward_spans (r : Regex) : Rounds.Forward text.size (Spans text r) := by
  intro i j h
  induction h with
  | empty i => exact .inl rfl
  | literal cs i here =>
    have room : cs.length ≤ text.size - i := by simpa using here.length_le
    omega
  | set s i c here _ =>
    obtain ⟨inside, -⟩ := Array.getElem?_eq_some_iff.mp here
    exact .inr ⟨i.lt_succ_self, inside⟩
  | anchor a i _ => exact .inl rfl
  | seq a b i j k _ _ ih ih' => omega
  | altLeft a b i j _ ih => exact ih
  | altRight a b i j _ ih => exact ih
  | stop a limit lazy i => exact .inl rfl
  | more a least limit lazy i j k _ _ _ ih ih' => omega
  | group number a i j _ ih => exact ih

theorem spans_empty_iff {i k : Nat} : Spans text empty i k ↔ i = k := by
  constructor
  · intro h
    cases h
    rfl
  · rintro rfl
    exact .empty i

theorem spans_literal_iff {cs : List Char} {i k : Nat} :
    Spans text (literal cs) i k ↔ cs <+: text.toList.drop i ∧ i + cs.length = k := by
  constructor
  · intro h
    cases h with
    | literal _ _ here => exact ⟨here, rfl⟩
  · rintro ⟨here, rfl⟩
    exact .literal cs i here

theorem spans_literal_cons_iff {c : Char} {cs : List Char} {i k : Nat} :
    Spans text (literal (c :: cs)) i k ↔ text[i]? = some c ∧ Spans text (literal cs) (i + 1) k := by
  have split : c :: cs <+: text.toList.drop i ↔
      text[i]? = some c ∧ cs <+: text.toList.drop (i + 1) := by
    by_cases inside : i < text.size
    · have cons : text.toList.drop i = text[i] :: text.toList.drop (i + 1) := by
        rw [List.drop_eq_getElem_cons (by simpa using inside)]
        simp
      rw [cons, List.cons_prefix_cons, Array.getElem?_eq_getElem inside, Option.some_inj]
      exact and_congr_left' eq_comm
    · have past : text.toList.drop i = [] := List.drop_eq_nil_of_le (by simpa using inside)
      simp [past, Nat.not_lt.mp inside]
  rw [spans_literal_iff, spans_literal_iff, split, and_assoc, List.length_cons, Nat.add_assoc,
    Nat.add_comm 1]

theorem spans_set_iff {s : CharSet} {i k : Nat} :
    Spans text (set s) i k ↔ ∃ c, text[i]? = some c ∧ s.contains c = true ∧ i + 1 = k := by
  constructor
  · intro h
    cases h with
    | set _ _ c here member => exact ⟨c, here, member, rfl⟩
  · rintro ⟨c, here, member, rfl⟩
    exact .set s i c here member

theorem spans_anchor_iff {a : Anchor} {i k : Nat} :
    Spans text (anchor a) i k ↔
      a.holds (neighbours text i).1 (neighbours text i).2 = true ∧ i = k := by
  constructor
  · intro h
    cases h with
    | anchor _ _ holds => exact ⟨holds, rfl⟩
  · rintro ⟨holds, rfl⟩
    exact .anchor a i holds

theorem spans_seq_iff {a b : Regex} {i k : Nat} :
    Spans text (seq a b) i k ↔ ∃ j, Spans text a i j ∧ Spans text b j k := by
  constructor
  · intro h
    cases h with
    | seq _ _ _ j _ first others => exact ⟨j, first, others⟩
  · rintro ⟨j, first, others⟩
    exact .seq a b i j k first others

theorem spans_alt_iff {a b : Regex} {i k : Nat} :
    Spans text (alt a b) i k ↔ Spans text a i k ∨ Spans text b i k := by
  constructor
  · intro h
    cases h with
    | altLeft _ _ _ _ h => exact .inl h
    | altRight _ _ _ _ h => exact .inr h
  · rintro (h | h)
    · exact .altLeft a b i k h
    · exact .altRight a b i k h

theorem spans_group_iff {number : Nat} {a : Regex} {i k : Nat} :
    Spans text (group number a) i k ↔ Spans text a i k := by
  constructor
  · intro h
    cases h with
    | group _ _ _ _ h => exact h
  · exact .group number a i k

theorem reaches_literal (cs : List Char) :
    Reaches (Spans text (literal cs)) (step text (literal cs)) := by
  intro is j
  rw [step]
  induction cs generalizing is with
  | nil => simp [spans_literal_iff]
  | cons c cs ih =>
    rw [List.foldl_cons, ih]
    simp only [mem_advance, spans_literal_cons_iff]
    constructor
    · rintro ⟨_, ⟨i, start, d, here, same, rfl⟩, others⟩
      exact ⟨i, start, of_decide_eq_true same ▸ here, others⟩
    · rintro ⟨i, start, here, others⟩
      exact ⟨i + 1, ⟨i, start, c, here, decide_eq_true rfl, rfl⟩, others⟩

theorem reaches_times {a : Regex} {least : Nat} {limit : Option Nat} {lazy : Bool}
    (reaches : Reaches (Spans text a) (step text a)) (room : ∀ m ∈ limit, least ≤ m) :
    Reaches (Spans text (times a least limit lazy)) (step text (times a least limit lazy)) := by
  intro is k
  have counted : step text (times a least limit lazy) is =
      let start := Nat.repeat (step text a) (min least (text.size + 1)) is
      spread (step text a) (limit.elim (text.size + 1) fun l => min (l - least) (text.size + 1))
        start start := by
    cases limit <;> rfl
  rw [counted]
  refine ((reaches.repeat _).comp (reaches.spread _) is k).trans ?_
  refine exists_congr fun i => and_congr_right fun _ => ?_
  rw [spans_times_iff, ← Rounds.capped_iff (forward_spans a) room]
  simp only [Rounds.add_iff]
  constructor
  · rintro ⟨j, before, m, few, after⟩
    exact ⟨m, few, j, before, after⟩
  · rintro ⟨m, few, j, before, after⟩
    exact ⟨j, before, m, few, after⟩

theorem reaches_step (r : Regex) (countable : r.Countable) :
    Reaches (Spans text r) (step text r) := by
  induction r with
  | empty =>
    intro is k
    simp [step, spans_empty_iff]
  | literal cs => exact reaches_literal cs
  | set s =>
    intro is k
    simp only [step, mem_advance, spans_set_iff]
  | anchor a =>
    intro is k
    simp [step, spans_anchor_iff, and_comm]
  | seq a b ih ih' =>
    intro is k
    simpa only [step, spans_seq_iff] using (ih countable.1).comp (ih' countable.2) is k
  | alt a b ih ih' =>
    intro is k
    rw [step, mem_merge, ih countable.1, ih' countable.2]
    simp only [spans_alt_iff, and_or_left, exists_or]
  | times a least limit lazy ih => exact reaches_times (ih countable.1) countable.2
  | group number a ih =>
    intro is k
    simpa only [step, spans_group_iff] using ih countable is k

end Spans

/-- There is a match where the expression spans some stretch of the text. -/
theorem isMatch_iff {r : Regex} (countable : r.Countable) (text : String) :
    r.isMatch text = true ↔
      ∃ i j, i ≤ text.toList.length ∧ Spans text.toList.toArray r i j := by
  have found (places : List Nat) : (!places.isEmpty) = true ↔ ∃ j, j ∈ places := by
    cases places <;> simp
  rw [isMatch, found]
  simp only [reaches_step r countable _ _, List.mem_range, Nat.lt_succ_iff, List.size_toArray]
  exact exists_comm

end RecordFilter.Regex
