import RecordFilter.Condition.Comparison
import RecordFilter.Proofs.Regex.Sequence

namespace RecordFilter.Wildcard

open Regex (Spans SpansAll)

/-- The runs that a character of a pattern stands for. -/
def Stands : Char → List Char → Prop
  | '%', _ => True
  | '_', run => run.length = 1
  | c, run => run = [c]

theorem stands_iff {c : Char} (run : List Char) (other : c ≠ '%') (other' : c ≠ '_') :
    Stands c run ↔ run = [c] := by
  rw [Stands]
  · exact other
  · exact other'

/-- What the characters of a pattern match, between the two ends of the text. -/
def parts (pattern : String) : List Regex :=
  .anchor .textStart :: (pattern.toList.map charRegex ++ [.anchor .textStop])

variable {text : Array Char}

theorem spans_all_iff {i k : Nat} : Spans text (.set .all) i k ↔ i < text.size ∧ i + 1 = k := by
  rw [Regex.spans_set_iff]
  constructor
  · rintro ⟨c, here, -, next⟩
    exact ⟨(Array.getElem?_eq_some_iff.mp here).1, next⟩
  · rintro ⟨inside, next⟩
    exact ⟨text[i], Array.getElem?_eq_getElem inside, CharSet.contains_all _, next⟩

theorem rounds_all_iff {n i k : Nat} (inside : i ≤ text.size) :
    Regex.Rounds (Spans text (.set .all)) n i k ↔ i + n = k ∧ k ≤ text.size := by
  induction n generalizing i with
  | zero =>
    rw [Regex.Rounds.zero_iff]
    omega
  | succ n ih =>
    rw [Regex.Rounds.succ_iff]
    constructor
    · rintro ⟨j, first, others⟩
      obtain ⟨more, rfl⟩ := spans_all_iff.mp first
      obtain ⟨place, end_inside⟩ := (ih more).mp others
      omega
    · rintro ⟨place, end_inside⟩
      exact ⟨i + 1, spans_all_iff.mpr (by omega), (ih (by omega)).mpr (by omega)⟩

theorem run_within {run rest : List Char} {i : Nat} (inside : i ≤ text.size)
    (parts : text.toList.drop i = run ++ rest) : i + run.length ≤ text.size := by
  have room := congrArg List.length parts
  simp only [List.length_drop, List.length_append, Array.length_toList] at room
  omega

theorem exists_run_iff {P : List Char → Prop} {i k : Nat} (inside : i ≤ text.size) :
    (∃ run, P run ∧ text.toList.drop i = run ++ text.toList.drop k ∧ i + run.length = k) ↔
      i ≤ k ∧ k ≤ text.size ∧ P ((text.toList.drop i).take (k - i)) := by
  constructor
  · rintro ⟨run, holds, parts, rfl⟩
    refine ⟨Nat.le_add_right .., run_within inside parts, ?_⟩
    rwa [parts, Nat.add_sub_cancel_left, List.take_left]
  · rintro ⟨before, within, holds⟩
    obtain ⟨n, rfl⟩ := Nat.exists_eq_add_of_le before
    rw [Nat.add_sub_cancel_left] at holds
    refine ⟨_, holds, ?_, ?_⟩
    · rw [← List.drop_drop, List.take_append_drop]
    · simp only [List.length_take, List.length_drop, Array.length_toList]
      omega

/-- A character of a pattern matches the stretches of a text that it stands for. -/
theorem spans_charRegex {c : Char} {i k : Nat} (inside : i ≤ text.size) :
    Spans text (charRegex c) i k ↔ ∃ run, Stands c run ∧
      text.toList.drop i = run ++ text.toList.drop k ∧ i + run.length = k := by
  have taken (within : k ≤ text.size) :
      ((text.toList.drop i).take (k - i)).length = k - i := by
    simp only [List.length_take, List.length_drop, Array.length_toList]
    omega
  rw [exists_run_iff inside]
  unfold charRegex
  split
  · simp only [Regex.spans_times_iff, rounds_all_iff inside, Stands]
    constructor
    · rintro ⟨n, -, -, place, within⟩
      exact ⟨by omega, within, trivial⟩
    · rintro ⟨before, within, -⟩
      exact ⟨k - i, Nat.zero_le _, nofun, by omega, within⟩
  · rw [spans_all_iff, Stands]
    constructor
    · rintro ⟨more, rfl⟩
      exact ⟨i.le_succ, more, by rw [taken more]; omega⟩
    · rintro ⟨before, within, one⟩
      rw [taken within] at one
      omega
  · next other other' =>
    rw [Regex.spans_literal_iff, stands_iff _ other other', List.prefix_iff_eq_take]
    constructor
    · rintro ⟨here, rfl⟩
      have more := congrArg List.length here
      simp only [List.length_take, List.length_drop, Array.length_toList, List.length_singleton]
        at more
      exact ⟨by simp, by simp; omega, by simpa using here.symm⟩
    · rintro ⟨before, within, here⟩
      have one : k - i = 1 := (taken within).symm.trans (congrArg List.length here)
      rw [one] at here
      exact ⟨here.symm, by simp; omega⟩

theorem spansAll_tail {cs : List Char} {i k : Nat} (inside : i ≤ text.size) :
    SpansAll text (cs.map charRegex ++ [.anchor .textStop]) i k ↔ k = text.size ∧
      ∃ runs, runs.flatten = text.toList.drop i ∧ List.Forall₂ Stands cs runs := by
  induction cs generalizing i with
  | nil =>
    have stop : Anchor.textStop.holds (Regex.neighbours text i).1 (Regex.neighbours text i).2 =
        true ↔ i = text.size := by
      simp [Anchor.holds, Regex.neighbours]
      omega
    rw [List.map_nil, List.nil_append, Regex.spansAll_singleton, Regex.spans_anchor_iff, stop]
    constructor
    · rintro ⟨rfl, rfl⟩
      exact ⟨rfl, [], by simp, .nil⟩
    · rintro ⟨rfl, _, flat, each⟩
      cases each
      have past := List.drop_eq_nil_iff.mp flat.symm
      rw [Array.length_toList] at past
      omega
  | cons c cs ih =>
    simp only [List.map_cons, List.cons_append, SpansAll, spans_charRegex inside]
    constructor
    · rintro ⟨_, ⟨run, stands, parts, rfl⟩, others⟩
      obtain ⟨ended, runs, flat, each⟩ := (ih (run_within inside parts)).mp others
      exact ⟨ended, run :: runs, by rw [List.flatten_cons, flat, parts], .cons stands each⟩
    · rintro ⟨ended, _, flat, each⟩
      cases each with
      | @cons _ run _ runs stands each =>
        rw [List.flatten_cons] at flat
        have rest : runs.flatten = text.toList.drop (i + run.length) := by
          rw [← List.drop_drop, ← flat, List.drop_left]
        rw [rest] at flat
        have others := (ih (run_within inside flat.symm)).mpr ⟨ended, runs, rest, each⟩
        exact ⟨_, ⟨run, stands, flat.symm, rfl⟩, others⟩

theorem spans_regex (pattern : String) {i k : Nat} :
    Spans text (regex pattern) i k ↔ SpansAll text (parts pattern) i k := by
  have spans_tail (cs : List Char) (i : Nat) : Spans text (tail cs) i k ↔
      SpansAll text (cs.map charRegex ++ [.anchor .textStop]) i k := by
    induction cs generalizing i with
    | nil => exact Regex.spansAll_singleton.symm
    | cons c cs ih =>
      rw [tail, Regex.spans_seq_iff]
      simp only [ih, List.map_cons, List.cons_append, SpansAll]
  rw [regex, Regex.spans_seq_iff]
  simp only [spans_tail, parts, SpansAll]

theorem isMatch_iff_of_parts {r : Regex} {pattern : String} (countable : r.Countable)
    (spans : ∀ text i k, Spans text r i k ↔ SpansAll text (parts pattern) i k) (text : String) :
    r.isMatch text = true ↔
      ∃ runs, runs.flatten = text.toList ∧ List.Forall₂ Stands pattern.toList runs := by
  have start (text : Array Char) (i : Nat) (inside : i ≤ text.size) :
      Anchor.textStart.holds (Regex.neighbours text i).1 (Regex.neighbours text i).2 = true ↔
        i = 0 := by
    by_cases first : i = 0
    · simp [Anchor.holds, Regex.neighbours, first]
    · have before : text[i - 1]? = some text[i - 1] := Array.getElem?_eq_getElem (by omega)
      simp [Anchor.holds, Regex.neighbours, first, before]
  rw [Regex.isMatch_iff countable]
  simp only [spans, parts, SpansAll, Regex.spans_anchor_iff]
  constructor
  · rintro ⟨i, k, inside, _, ⟨first, rfl⟩, others⟩
    obtain rfl := (start _ i (by simpa using inside)).mp first
    obtain ⟨-, taken⟩ := (spansAll_tail (by simp)).mp others
    simpa using taken
  · intro taken
    have taken : ∃ runs, runs.flatten = text.toList.toArray.toList.drop 0 ∧
        List.Forall₂ Stands pattern.toList runs := by
      simpa using taken
    have others := (spansAll_tail (Nat.zero_le _)).mpr ⟨rfl, taken⟩
    exact ⟨0, _, by simp, 0, ⟨(start _ 0 (Nat.zero_le _)).mpr rfl, rfl⟩, others⟩

theorem countable_charRegex (c : Char) : (charRegex c).Countable := by
  unfold charRegex
  split
  · exact ⟨trivial, nofun⟩
  · trivial
  · trivial

theorem countable_parts (pattern : String) : ∀ r ∈ parts pattern, r.Countable := by
  intro r member
  simp only [parts, List.mem_cons, List.mem_append, List.mem_map, List.not_mem_nil, or_false]
    at member
  rcases member with rfl | ⟨c, -, rfl⟩ | rfl
  · trivial
  · exact countable_charRegex c
  · trivial

theorem isMatch_regex_iff (pattern text : String) :
    (regex pattern).isMatch text = true ↔
      ∃ runs, runs.flatten = text.toList ∧ List.Forall₂ Stands pattern.toList runs := by
  have ending (cs : List Char) : (tail cs).Countable := by
    induction cs with
    | nil => trivial
    | cons c cs ih => exact ⟨countable_charRegex c, ih⟩
  have countable : (regex pattern).Countable := ⟨trivial, ending _⟩
  exact isMatch_iff_of_parts countable (fun _ _ _ => spans_regex pattern) text

end RecordFilter.Wildcard
