import RecordFilter.Proofs.Parse.Acceptance
import RecordFilter.Proofs.Token.Sequence

namespace RecordFilter

open Grammar (bracketed nots Elements)

variable {limit d : Nat}

namespace Nested

theorem Bare.up {level : Nat} {ts : List Token} {x : Operand} (h : Bare limit (level + 1) ts x) :
    Bare limit level ts x := by
  generalize deeper : level + 1 = l at h
  induction h generalizing level with
  | value h => exact .value h
  | group within _ ih => exact .group (by omega) (ih (by omega))

theorem Right.up {level : Nat} {ts : List Token} {x : Operand} (h : Right limit (level + 1) ts x) :
    Right limit level ts x := by
  cases h with
  | value h => exact .value h
  | empty within => exact .empty (by omega)
  | list within elements => exact .list (by omega) elements

/-- What stands in a deeper region could stand in this one. -/
theorem Phrase.up {s : Symbol} {ts : List Token} {c : Condition}
    (h : Phrase limit (d + 1) s ts c) : Phrase limit d s ts c := by
  generalize deeper : d + 1 = e at h
  induction h generalizing d with
  | group n within _ ih => exact .group n (by omega) (ih (by omega))
  | comparison n m within left right legal =>
    subst deeper
    have level : d + 1 + max n 1 = d + max n 1 + 1 := by omega
    have level' : d + 1 + (n + m) + 1 = d + (n + m) + 1 + 1 := by omega
    rw [level] at left
    rw [level'] at right
    exact .comparison n m (by omega) left.up right.up legal
  | single _ ih => exact .single (ih deeper)
  | join _ _ left right => exact .join (left deeper) (right deeper)

theorem Phrase.unit {ts : List Token} {c : Condition} (h : Phrase limit d .logic ts c)
    (single : c.isJoin = false) : Phrase limit d .unit ts c := by
  cases h with
  | single unit => exact unit
  | join => cases single

end Nested

theorem Grammar.Bare.value_mem {ts : List Token} {x : Operand} (h : Grammar.Bare ts x) :
    ∃ t ∈ ts, t.operand? = some x := by
  induction h with
  | @value t x h => exact ⟨t, List.mem_singleton_self t, h⟩
  | group _ ih =>
    obtain ⟨t, ht, h⟩ := ih
    exact ⟨t, by simp [bracketed, ht], h⟩

theorem Operand.charsOfItems_concat {xs : List Operand} (nonempty : xs ≠ []) (x : Operand) :
    charsOfItems (xs ++ [x]) = charsOfItems xs ++ ',' :: ' ' :: x.chars := by
  induction xs with
  | nil => exact absurd rfl nonempty
  | cons y ys ih =>
    cases ys with
    | nil => rfl
    | cons z zs =>
      have others := ih (List.cons_ne_nil z zs)
      rw [List.cons_append] at others
      simp only [List.cons_append, charsOfItems, others, List.append_assoc]

theorem Grammar.Elements.spells {ts : List Token} {xs : List Operand} (h : Elements ts xs)
    (legible : ∀ t ∈ ts, t.Legible) : Spells (Operand.charsOfItems xs) ts := by
  induction h with
  | @single t x h literal => exact ((legible t (by simp)).spelled h).spells
  | @more ts xs t x others h literal ih =>
    have before := ih fun u hu => legible u (by simp [hu])
    have last := ((legible t (by simp)).spelled h).spells
    rw [Operand.charsOfItems_concat others.ne_nil]
    exact before.listed last

theorem Grammar.Right.spells {ts : List Token} {x : Operand} (h : Grammar.Right ts x)
    (legible : ∀ t ∈ ts, t.Legible) : Spells x.chars ts := by
  cases h with
  | @value t x h => exact ((legible t (by simp)).spelled h).spells
  | empty => exact Spells.nil.bracketed
  | list elements =>
    exact (elements.spells fun t ht => legible t (by simp [bracketed, ht])).bracketed

theorem Comparison.eq_of_make {x y : Operand} {op : Comparator} {c : Comparison}
    (h : make x op y = .ok c) : c.left = x ∧ c.op = op ∧ c.right = y := by
  unfold make at h
  split at h
  · injection h with h
    exact h ▸ ⟨rfl, rfl, rfl⟩
  · cases h

namespace Condition

def unitChars (c : Condition) : List Char :=
  if c.isJoin then Condition.bracketed c.chars else c.chars

/-- The text of a condition, as a phrase or as a unit, could stand in a region of depth `d`. -/
def Fits (limit d : Nat) : Symbol → Condition → Prop
  | .logic, c => ∃ us, Spells c.chars us ∧ Nested.Phrase limit d .logic us c
  | .unit, c => ∃ us, Spells c.unitChars us ∧ Nested.Phrase limit d .unit us c

theorem Fits.up {s : Symbol} {c : Condition} (h : Fits limit (d + 1) s c) : Fits limit d s c := by
  cases s with
  | logic => exact h.imp fun _ h => ⟨h.1, h.2.up⟩
  | unit => exact h.imp fun _ h => ⟨h.1, h.2.up⟩

/-- A condition that fits a level deeper fits with its own brackets. -/
theorem Fits.grouped {c : Condition} (within : d + 1 ≤ limit) (h : Fits limit (d + 1) .logic c) :
    Fits limit d .unit c := by
  obtain ⟨us, spelled, phrase⟩ := h
  cases join : c.isJoin with
  | false =>
    refine ⟨us, ?_, phrase.up.unit join⟩
    rw [unitChars, join]
    exact spelled
  | true =>
    refine ⟨Grammar.bracketed us, ?_, ?_⟩
    · rw [unitChars, join]
      exact spelled.bracketed
    · exact .group 0 within phrase

/-- Each negation takes one level of the text, and that level was taken by the negation before. -/
theorem Fits.negations {c : Condition} {n : Nat} (within : d + n ≤ limit)
    (h : Fits limit (d + n) .logic c) : Fits limit d .logic (negation^[n] c) := by
  induction n generalizing d with
  | zero => exact h
  | succ n ih =>
    have level : d + (n + 1) = d + 1 + n := by omega
    rw [level] at within h
    obtain ⟨us, spelled, phrase⟩ := ih within h
    rw [Function.iterate_succ_apply']
    refine ⟨[Token.not] ++ Grammar.bracketed us, ?_, ?_⟩
    · exact Token.spelled_not.spells.spaced spelled.bracketed
    · exact .single (.group 1 (by omega) phrase)

theorem isJoin_negations {c : Condition} (single : c.isJoin = false) (n : Nat) :
    (negation^[n] c).isJoin = false := by
  cases n with
  | zero => exact single
  | succ n =>
    rw [Function.iterate_succ_apply']
    rfl

theorem Fits.unit {c : Condition} (single : c.isJoin = false) (h : Fits limit d .logic c) :
    Fits limit d .unit c := by
  obtain ⟨us, spelled, phrase⟩ := h
  refine ⟨us, ?_, phrase.unit single⟩
  rw [unitChars, single]
  exact spelled

end Condition

open Condition (Fits)

/-- A comparison is printed without the brackets around its left side, and its negations stand in
front of it. -/
theorem fits_comparison {ls rs : List Token} {x y : Operand} {op : Comparator} {c : Comparison}
    {level : Nat} (within : d ≤ limit) (left : Nested.Bare limit level ls x)
    (right : Nested.Right limit (d + 1) rs y) (legal : Comparison.make x op y = .ok c)
    (legibleLeft : ∀ t ∈ ls, t.Legible) (legibleRight : ∀ t ∈ rs, t.Legible) :
    Fits limit d .logic (.comparison c) := by
  obtain ⟨t, member, h⟩ := left.plain.value_mem
  obtain ⟨rfl, rfl, rfl⟩ := Comparison.eq_of_make legal
  have first := ((legibleLeft t member).spelled h).spells
  have second := (Token.spelled_comparator c.op).spells
  have third := right.plain.spells legibleRight
  refine ⟨[t] ++ ([.comparator c.op] ++ rs), ?_, ?_⟩
  · have spelled := first.spaced (second.spaced third)
    simpa [Condition.chars, Comparison.chars] using spelled
  · have phrase := Nested.Phrase.comparison 0 0 within (.value h) right legal
    exact .single phrase

/-- Whatever could be read in a region is printed so that it can be read there again. -/
theorem fits_phrase {s : Symbol} {ts : List Token} {c : Condition}
    (h : Nested.Phrase limit d s ts c) (legible : ∀ t ∈ ts, t.Legible) :
    Fits limit d .logic c ∧ (s = .unit → Fits limit d .unit c) := by
  induction h with
  | @group d ts c n within _ ih =>
    have inner := (ih fun t ht => legible t (by simp [bracketed, ht])).1
    cases n with
    | zero => exact ⟨inner.up, fun _ => inner.grouped within⟩
    | succ n =>
      have levels : max (n + 1) 1 = n + 1 := by omega
      rw [levels] at within inner
      have negated := inner.negations within
      have single : (Condition.negation^[n + 1] c).isJoin = false :=
        Condition.isJoin_negations rfl n
      exact ⟨negated, fun _ => negated.unit single⟩
  | @comparison d ls rs x y op c n m within left right legal =>
    have inner := fits_comparison within left right legal
      (fun t ht => legible t (by simp [ht])) (fun t ht => legible t (by simp [ht]))
    have negated := inner.negations within
    have single := Condition.isJoin_negations (c := .comparison c) rfl (n + m)
    exact ⟨negated, fun _ => negated.unit single⟩
  | single _ ih => exact ⟨(ih legible).1, by simp⟩
  | @join d ts us a b op _ _ left right =>
    obtain ⟨before, -⟩ := left fun t ht => legible t (by simp [ht])
    obtain ⟨-, behind⟩ := right fun t ht => legible t (by simp [ht])
    obtain ⟨ts', spelled, phrase⟩ := before
    obtain ⟨us', spelled', phrase'⟩ := behind rfl
    refine ⟨⟨ts' ++ ([.connective op] ++ us'), ?_, ?_⟩, by simp⟩
    · have text := spelled.spaced ((Token.spelled_connective op).spells.spaced spelled')
      simpa [Condition.chars, Condition.unitChars] using text
    · exact .join phrase phrase'

theorem derives_printed {ts : List Token} {e : Expression} (h : Nested.Derives limit d ts e)
    (legible : ∀ t ∈ ts, t.Legible) :
    ∃ us, Spells e.chars us ∧ Nested.Derives limit d us e := by
  cases h with
  | operand bare =>
    obtain ⟨t, member, h⟩ := bare.plain.value_mem
    exact ⟨[t], ((legible t member).spelled h).spells, .operand (.value h)⟩
  | condition logic =>
    obtain ⟨us, spelled, phrase⟩ := (fits_phrase logic legible).1
    exact ⟨us, spelled, .condition phrase⟩

/-- A printed expression is read back as itself, within the limits that its source met. -/
theorem Expression.parse_text {text : String} {options : ParseOptions} {e : Expression}
    (h : Expression.parse text options = .ok e) : Expression.parse e.text options = .ok e := by
  obtain ⟨ls, stop, lexed, derived, height⟩ := Expression.parse_eq_ok_iff_nested.mp h
  have read := tokenize_eq_ok.mp lexed
  have legible : ∀ t ∈ ls.map (·.token), t.Legible := by
    intro t ht
    obtain ⟨l, hl, rfl⟩ := List.mem_map.mp ht
    exact Reader.legible_of_mem (by rw [read]; exact hl)
  obtain ⟨us, spelled, derived'⟩ := derives_printed derived legible
  obtain ⟨ls', stop', lexed', tokens⟩ := spelled.tokenize
  exact Expression.parse_eq_ok_iff_nested.mpr ⟨ls', stop', lexed', tokens ▸ derived', height⟩

/-- The text moves the brackets and quotes otherwise, within limits that leave no room. -/
theorem Expression.parse_text_moved :
    Expression.parse "NOT (a) == \"it's\" || (b IN (01,?))" ⟨2, 3⟩ =
        .ok (.condition (.join
          (.negation (.comparison ⟨.key "a", .equal, .string "it's", none, rfl⟩)) .or
          (.comparison ⟨.key "b", .member, .list [.number (.int32 1), .placeholder], none, rfl⟩))) ∧
      Expression.parse "NOT (a = 'it\\'s') OR b IN (1, ?)" ⟨2, 3⟩ =
        .ok (.condition (.join
          (.negation (.comparison ⟨.key "a", .equal, .string "it's", none, rfl⟩)) .or
          (.comparison ⟨.key "b", .member, .list [.number (.int32 1), .placeholder], none,
            rfl⟩))) := by
  have source : Expression.parse "NOT (a) == \"it's\" || (b IN (01,?))" ⟨2, 3⟩ =
      .ok (.condition (.join
        (.negation (.comparison ⟨.key "a", .equal, .string "it's", none, rfl⟩)) .or
        (.comparison ⟨.key "b", .member, .list [.number (.int32 1), .placeholder], none,
          rfl⟩))) := by
    cbv
  have text : (Expression.condition (.join
      (.negation (.comparison ⟨.key "a", .equal, .string "it's", none, rfl⟩)) .or
      (.comparison ⟨.key "b", .member, .list [.number (.int32 1), .placeholder], none,
        rfl⟩))).text = "NOT (a = 'it\\'s') OR b IN (1, ?)" := by
    cbv
  exact ⟨source, text ▸ parse_text source⟩

end RecordFilter
