namespace RecordFilter
namespace CharSet

/-- Runs in order, each with a gap after it, from `n` on. -/
def Apart : Nat → List (Nat × Nat) → Prop
  | _, [] => True
  | n, r :: rs => n ≤ r.1 ∧ r.1 ≤ r.2 ∧ Apart (r.2 + 2) rs

def covers : List (Nat × Nat) → Nat → Bool
  | [], _ => false
  | r :: rs, n => r.1 ≤ n && (n ≤ r.2 || covers rs n)

/-- The run `r` and the runs after it, in the order of their starts, joined where they touch. -/
def joinFrom (r : Nat × Nat) : List (Nat × Nat) → List (Nat × Nat)
  | [] => [r]
  | s :: rs =>
    if s.1 ≤ r.2 + 1 then joinFrom (r.1, max r.2 s.2) rs else r :: joinFrom s rs

def join : List (Nat × Nat) → List (Nat × Nat)
  | [] => []
  | r :: rs => joinFrom r rs

/-- The parts of a run that hold characters: code points, without the surrogates. -/
def clip (r : Nat × Nat) : List (Nat × Nat) :=
  [(r.1, min r.2 0xD7FF), (max r.1 0xE000, min r.2 0x10FFFF)].filter fun r => r.1 ≤ r.2

/-- The code points from `n` on that no run holds. -/
def gaps (n : Nat) : List (Nat × Nat) → List (Nat × Nat)
  | [] => [(n, 0x10FFFF)]
  | r :: rs => (if n < r.1 then [(n, r.1 - 1)] else []) ++ gaps (r.2 + 1) rs

theorem not_covers_of_lt {m n : Nat} {rs : List (Nat × Nat)} (h : Apart m rs) (hn : n < m) :
    covers rs n = false := by
  cases rs with
  | nil => rfl
  | cons r rs =>
    have := h.1
    simp [covers]
    omega

theorem covers_iff {m : Nat} {rs : List (Nat × Nat)} (h : Apart m rs) (n : Nat) :
    covers rs n = true ↔ ∃ r ∈ rs, r.1 ≤ n ∧ n ≤ r.2 := by
  induction rs generalizing m with
  | nil => simp [covers]
  | cons r rs ih =>
    have hrest := ih h.2.2
    simp only [covers, Bool.and_eq_true, Bool.or_eq_true, decide_eq_true_eq, List.mem_cons,
      exists_eq_or_imp, ← hrest]
    have hlt : covers rs n = true → r.1 ≤ n := fun hc => by
      by_cases hn : n < r.2 + 2
      · simp [not_covers_of_lt h.2.2 hn] at hc
      · have := h.2.1
        omega
    constructor
    · rintro ⟨h1, h2 | h2⟩
      · exact .inl ⟨h1, h2⟩
      · exact .inr h2
    · rintro (h1 | h1)
      · exact ⟨h1.1, .inl h1.2⟩
      · exact ⟨hlt h1, .inr h1⟩

theorem apart_joinFrom {m : Nat} {r : Nat × Nat} {rs : List (Nat × Nat)} (hm : m ≤ r.1)
    (hr : r.1 ≤ r.2) (hrs : ∀ s ∈ rs, s.1 ≤ s.2) : Apart m (joinFrom r rs) := by
  induction rs generalizing m r with
  | nil => exact ⟨hm, hr, trivial⟩
  | cons s rs ih =>
    have hs := hrs s (by simp)
    have hrest : ∀ t ∈ rs, t.1 ≤ t.2 := fun t ht => hrs t (by simp [ht])
    rw [joinFrom]
    split
    · exact ih hm (by simp; omega) hrest
    · exact ⟨hm, hr, ih (by omega) hs hrest⟩

theorem mem_joinFrom {r : Nat × Nat} {rs : List (Nat × Nat)} (hr : r.1 ≤ r.2)
    (h : (r :: rs).Pairwise fun r s => r.1 ≤ s.1) (hrs : ∀ s ∈ rs, s.1 ≤ s.2) (n : Nat) :
    (∃ t ∈ joinFrom r rs, t.1 ≤ n ∧ n ≤ t.2) ↔ ∃ t ∈ r :: rs, t.1 ≤ n ∧ n ≤ t.2 := by
  induction rs generalizing r with
  | nil => rfl
  | cons s rs ih =>
    have hs := hrs s (by simp)
    have hrest : ∀ t ∈ rs, t.1 ≤ t.2 := fun t ht => hrs t (by simp [ht])
    have hle : r.1 ≤ s.1 := by simpa using (List.pairwise_cons.1 h).1 s (by simp)
    have htail := (List.pairwise_cons.1 h).2
    rw [joinFrom]
    split
    · have hp : ((r.1, max r.2 s.2) :: rs).Pairwise fun r s => r.1 ≤ s.1 :=
        List.pairwise_cons.2 ⟨fun t ht => (List.pairwise_cons.1 h).1 t (by simp [ht]),
          (List.pairwise_cons.1 htail).2⟩
      rw [ih (by simp; omega) hp hrest]
      simp only [List.mem_cons, exists_eq_or_imp]
      rw [← or_assoc]
      refine or_congr_left ?_
      omega
    · simp only [List.mem_cons, exists_eq_or_imp, ih hs htail hrest]

end CharSet

/-- A set of characters by its runs, first and last code point each. -/
structure CharSet where
  runs : List (Nat × Nat)
  apart : CharSet.Apart 0 runs
  deriving DecidableEq

namespace CharSet

def contains (s : CharSet) (c : Char) : Bool := covers s.runs c.toNat

theorem apart_join {rs : List (Nat × Nat)} (h : ∀ r ∈ rs, r.1 ≤ r.2) : Apart 0 (join rs) := by
  cases rs with
  | nil => trivial
  | cons r rs => exact apart_joinFrom (Nat.zero_le _) (h r (by simp)) fun s hs => h s (by simp [hs])

def sorted (runs : List (Nat × Nat)) : List (Nat × Nat) :=
  (runs.flatMap clip).mergeSort fun r s => r.1 ≤ s.1

theorem le_of_mem_sorted {runs : List (Nat × Nat)} {r : Nat × Nat} (h : r ∈ sorted runs) :
    r.1 ≤ r.2 := by
  simp only [sorted, List.mem_mergeSort, List.mem_flatMap, clip, List.mem_filter] at h
  obtain ⟨_, _, _, h⟩ := h
  simpa using h

def ofRuns (runs : List (Nat × Nat)) : CharSet :=
  ⟨join (sorted runs), apart_join fun _ => le_of_mem_sorted⟩

theorem mem_clip (r : Nat × Nat) (c : Char) :
    (∃ s ∈ clip r, s.1 ≤ c.toNat ∧ c.toNat ≤ s.2) ↔ r.1 ≤ c.toNat ∧ c.toNat ≤ r.2 := by
  have hc : c.toNat < 0xD800 ∨ (0xDFFF < c.toNat ∧ c.toNat < 0x110000) := c.valid
  simp only [clip, List.mem_filter, List.mem_cons, List.not_mem_nil, or_false, decide_eq_true_eq]
  constructor
  · rintro ⟨s, ⟨rfl | rfl, _⟩, h1, h2⟩ <;> simp at * <;> omega
  · intro h
    rcases hc with hc | hc
    · exact ⟨_, ⟨.inl rfl, by simp; omega⟩, by simp; omega⟩
    · exact ⟨_, ⟨.inr rfl, by simp; omega⟩, by simp; omega⟩

theorem contains_ofRuns (runs : List (Nat × Nat)) (c : Char) :
    (ofRuns runs).contains c = true ↔ ∃ r ∈ runs, r.1 ≤ c.toNat ∧ c.toNat ≤ r.2 := by
  have hp : (sorted runs).Pairwise fun r s => r.1 ≤ s.1 := by
    have h : (sorted runs).Pairwise fun r s => decide (r.1 ≤ s.1) = true :=
      List.pairwise_mergeSort (by simp; omega) (by simp; omega) _
    simpa using h
  have hm : (∃ r ∈ sorted runs, r.1 ≤ c.toNat ∧ c.toNat ≤ r.2) ↔
      ∃ r ∈ runs, r.1 ≤ c.toNat ∧ c.toNat ≤ r.2 := by
    simp only [sorted, List.mem_mergeSort, List.mem_flatMap]
    constructor
    · rintro ⟨s, ⟨r, hr, hs⟩, h⟩
      exact ⟨r, hr, (mem_clip r c).1 ⟨s, hs, h⟩⟩
    · rintro ⟨r, hr, h⟩
      obtain ⟨s, hs, h⟩ := (mem_clip r c).2 h
      exact ⟨s, ⟨r, hr, hs⟩, h⟩
  rw [contains, covers_iff (ofRuns runs).apart, ← hm]
  show (∃ r ∈ join (sorted runs), _) ↔ _
  have hle : ∀ r ∈ sorted runs, r.1 ≤ r.2 := fun _ => le_of_mem_sorted
  generalize sorted runs = rs at hp hle
  cases rs with
  | nil => rfl
  | cons r rs => exact mem_joinFrom (hle r (by simp)) hp (fun s hs => hle s (by simp [hs])) _

def empty : CharSet := ⟨[], trivial⟩

def ofCodes (codes : List Nat) : CharSet := ofRuns (codes.map fun n => (n, n))

def range (first last : Char) : CharSet := ofRuns [(first.toNat, last.toNat)]

def single (c : Char) : CharSet := ⟨[(c.toNat, c.toNat)], by simp [Apart]⟩

def all : CharSet := ⟨[(0, 0xD7FF), (0xE000, 0x10FFFF)], by simp [Apart]⟩

def unions (sets : List CharSet) : CharSet := ofRuns (sets.flatMap runs)

def union (a b : CharSet) : CharSet := ofRuns (a.runs ++ b.runs)

def complement (a : CharSet) : CharSet := ofRuns (gaps 0 a.runs)

def inter (a b : CharSet) : CharSet := complement (union (complement a) (complement b))

def diff (a b : CharSet) : CharSet := complement (union (complement a) b)

def symmetricDiff (a b : CharSet) : CharSet := union (diff a b) (diff b a)

instance : Union CharSet := ⟨union⟩

instance : Inter CharSet := ⟨inter⟩

instance : SDiff CharSet := ⟨diff⟩

def only? (s : CharSet) : Option Char :=
  match s.runs with
  | [(n, m)] => if n = m then some (Char.ofNat n) else none
  | _ => none

theorem contains_iff (s : CharSet) (c : Char) :
    s.contains c = true ↔ ∃ r ∈ s.runs, r.1 ≤ c.toNat ∧ c.toNat ≤ r.2 :=
  covers_iff s.apart _

theorem contains_single (c d : Char) : (single c).contains d = true ↔ d = c := by
  rw [contains_iff, ← Char.toNat_inj]
  simp only [single, List.mem_singleton, exists_eq_left]
  omega

theorem contains_all (c : Char) : all.contains c = true := by
  have hc : c.toNat < 0xD800 ∨ (0xDFFF < c.toNat ∧ c.toNat < 0x110000) := c.valid
  rw [contains_iff]
  simp only [all, List.mem_cons, List.not_mem_nil, or_false, exists_eq_or_imp, exists_eq_left]
  omega

theorem contains_range (first last c : Char) :
    (range first last).contains c = true ↔ first ≤ c ∧ c ≤ last := by
  simp only [range, contains_ofRuns, List.mem_singleton, exists_eq_left]
  rfl

theorem contains_union (a b : CharSet) (c : Char) :
    (a ∪ b).contains c = (a.contains c || b.contains c) := by
  rw [Bool.eq_iff_iff, Bool.or_eq_true, contains_iff a, contains_iff b]
  show (ofRuns (a.runs ++ b.runs)).contains c = true ↔ _
  simp only [contains_ofRuns, List.mem_append, or_and_right, exists_or]

theorem contains_unions (sets : List CharSet) (c : Char) :
    (unions sets).contains c = sets.any (·.contains c) := by
  rw [Bool.eq_iff_iff, List.any_eq_true, unions, contains_ofRuns]
  simp only [List.mem_flatMap, contains_iff]
  exact ⟨fun ⟨r, ⟨s, hs, hr⟩, h⟩ => ⟨s, hs, r, hr, h⟩, fun ⟨s, hs, r, hr, h⟩ => ⟨r, ⟨s, hs, hr⟩, h⟩⟩

theorem Apart.mono {k m : Nat} {rs : List (Nat × Nat)} (h : Apart m rs) (hk : k ≤ m) :
    Apart k rs := by
  cases rs with
  | nil => trivial
  | cons r rs => exact ⟨Nat.le_trans hk h.1, h.2⟩

theorem le_of_mem_gaps {m : Nat} {rs : List (Nat × Nat)} (h : Apart m rs) {r : Nat × Nat}
    (hr : r ∈ gaps m rs) : m ≤ r.1 := by
  induction rs generalizing m with
  | nil => simp_all [gaps]
  | cons s rs ih =>
    rw [gaps, List.mem_append] at hr
    rcases hr with hr | hr
    · split at hr <;> simp_all
    · have := ih (h.2.2.mono (by omega)) hr
      have := h.1
      have := h.2.1
      omega

theorem mem_gaps {m n : Nat} {rs : List (Nat × Nat)} (h : Apart m rs) (hm : m ≤ n)
    (hn : n ≤ 0x10FFFF) : (∃ r ∈ gaps m rs, r.1 ≤ n ∧ n ≤ r.2) ↔ covers rs n = false := by
  induction rs generalizing m with
  | nil => simp [gaps, covers, hm, hn]
  | cons r rs ih =>
    have hrest : Apart (r.2 + 1) rs := h.2.2.mono (by omega)
    simp only [gaps, covers, List.mem_append, or_and_right, exists_or, Bool.and_eq_false_iff,
      Bool.or_eq_false_iff, decide_eq_false_iff_not]
    by_cases h1 : n < r.1
    · have hlt : m < r.1 := by omega
      simp only [hlt, if_true, List.mem_singleton, exists_eq_left]
      omega
    · have hfirst : ¬ ∃ s ∈ (if m < r.1 then [(m, r.1 - 1)] else []), s.1 ≤ n ∧ n ≤ s.2 := by
        split <;> simp
        omega
      by_cases h2 : n ≤ r.2
      · have hlast : ¬ ∃ s ∈ gaps (r.2 + 1) rs, s.1 ≤ n ∧ n ≤ s.2 := fun ⟨s, hs, hle, _⟩ => by
          have := le_of_mem_gaps hrest hs
          omega
        simp only [hfirst, hlast, h2, Nat.not_lt.1 h1, or_self, not_true_eq_false, false_and]
      · rw [ih hrest (by omega)]
        simp only [hfirst, h2, not_false_eq_true, true_and, false_or, Nat.not_lt.1 h1,
          not_true_eq_false]

theorem contains_complement (a : CharSet) (c : Char) :
    a.complement.contains c = !a.contains c := by
  have hc : c.toNat < 0xD800 ∨ (0xDFFF < c.toNat ∧ c.toNat < 0x110000) := c.valid
  rw [Bool.eq_iff_iff, complement, contains_ofRuns, Bool.not_eq_true', contains]
  exact mem_gaps a.apart (Nat.zero_le _) (by omega)

theorem contains_inter (a b : CharSet) (c : Char) :
    (a ∩ b).contains c = (a.contains c && b.contains c) := by
  show (complement (complement a ∪ complement b)).contains c = _
  simp only [contains_complement, contains_union, Bool.not_or, Bool.not_not]

theorem contains_diff (a b : CharSet) (c : Char) :
    (a \ b).contains c = (a.contains c && !b.contains c) := by
  show (complement (complement a ∪ b)).contains c = _
  simp only [contains_complement, contains_union, Bool.not_or, Bool.not_not]

/-- The runs of the rows that satisfy `p`, of a table whose rows hold from their own code point up
to the next row's. -/
def rowRuns {α : Type} (p : α → Bool) : List (Nat × α) → List (Nat × Nat)
  | [] => []
  | (n, a) :: rows =>
    let last := match rows with
      | [] => 0x10FFFF
      | row :: _ => row.1 - 1
    if p a then (n, last) :: rowRuns p rows else rowRuns p rows

def ofRows {α : Type} (p : α → Bool) (rows : List (Nat × α)) : CharSet := ofRuns (rowRuns p rows)

end CharSet
end RecordFilter
