import RecordFilter.Proofs.Parse.Grammar

namespace RecordFilter

open Grammar (nots bracketed)

variable {ts us : List Token}

/-- Tokens whose brackets come in pairs. -/
inductive Balanced : List Token → Prop where
  | nil : Balanced []
  | token {t : Token} (left : t ≠ .leftParen) (right : t ≠ .rightParen) : Balanced [t]
  | bracketed {ts : List Token} (inner : Balanced ts) : Balanced (bracketed ts)
  | append {ts us : List Token} (first : Balanced ts) (second : Balanced us) : Balanced (ts ++ us)

/-- What stands between a bracket and its partner is balanced. -/
theorem Balanced.exists_partner (h : Balanced ts) {before rest : List Token}
    (split : ts = before ++ .leftParen :: rest) :
    ∃ inner after, Balanced inner ∧ rest = inner ++ .rightParen :: after := by
  induction h generalizing before rest with
  | nil => simp at split
  | token left right =>
    cases before with
    | nil =>
      injection split with first
      exact absurd first left
    | cons => simp at split
  | @bracketed ts inner ih =>
    cases before with
    | nil =>
      injection split with _ split
      exact ⟨ts, [], inner, split.symm⟩
    | cons t before =>
      injection split with _ split
      rcases List.append_eq_append_iff.mp split with ⟨end', front, back⟩ | ⟨end', front, back⟩
      · cases end' with
        | nil => cases back
        | cons => simp at back
      · cases end' with
        | nil => cases back
        | cons t' end' =>
          injection back with first back
          subst first back
          obtain ⟨inner', after, balanced, rfl⟩ := ih front
          exact ⟨inner', after ++ [.rightParen], balanced, by simp⟩
  | @append _ vs _ _ ih₁ ih₂ =>
    rcases List.append_eq_append_iff.mp split with ⟨end', front, back⟩ | ⟨end', front, back⟩
    · exact ih₂ back
    · cases end' with
      | nil =>
        have opens : vs = [] ++ .leftParen :: rest := back.symm
        exact ih₂ opens
      | cons t' end' =>
        injection back with first back
        subst first back
        obtain ⟨inner', after, balanced, rfl⟩ := ih₁ front
        exact ⟨inner', after ++ vs, balanced, by simp⟩

theorem Balanced.operand {t : Token} {x : Operand} (h : t.operand? = some x) : Balanced [t] := by
  apply Balanced.token
  · rintro rfl
    cases h
  · rintro rfl
    cases h

namespace Grammar

theorem balanced_nots (n : Nat) : Balanced (nots n) := by
  induction n with
  | zero => exact .nil
  | succ n ih =>
    have first : Balanced [.not] := .token nofun nofun
    exact first.append ih

theorem Bare.balanced {x : Operand} (h : Bare ts x) : Balanced ts := by
  induction h with
  | value h => exact .operand h
  | group _ ih => exact .bracketed ih

theorem Elements.balanced {xs : List Operand} (h : Elements ts xs) : Balanced ts := by
  induction h with
  | single h => exact .operand h
  | more _ h _ ih =>
    have comma : Balanced [.comma] := .token nofun nofun
    exact ih.append (comma.append (.operand h))

theorem Right.balanced {x : Operand} (h : Right ts x) : Balanced ts := by
  cases h with
  | value h => exact .operand h
  | empty => exact .bracketed .nil
  | list elements => exact .bracketed elements.balanced

theorem Phrase.balanced {s : Symbol} {c : Condition} (h : Phrase s ts c) : Balanced ts := by
  induction h with
  | group n _ ih => exact .append (balanced_nots n) (.bracketed ih)
  | @comparison ls rs x y op c n m left right =>
    have front := ((balanced_nots n).append left.balanced).append (balanced_nots m)
    have comparator : Balanced [.comparator op] := .token nofun nofun
    exact front.append (comparator.append right.balanced)
  | single _ ih => exact ih
  | @join ts us a b op _ _ left right =>
    have connective : Balanced [.connective op] := .token nofun nofun
    exact left.append (connective.append right)

theorem Derives.balanced {e : Expression} (h : Derives ts e) : Balanced ts := by
  cases h with
  | operand bare => exact bare.balanced
  | condition logic => exact logic.balanced

end Grammar
end RecordFilter
