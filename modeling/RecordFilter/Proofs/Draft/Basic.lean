import RecordFilter.Proofs.Token.Sequence

namespace RecordFilter

open Grammar (bracketed)

namespace Operand

def isList : Operand → Bool
  | list _ => true
  | _ => false

mutual

def tokens : Operand → List Token
  | key name => [.key name]
  | null => [.null]
  | boolean b => [.boolean b]
  | number n => [.number n]
  | string s => [.string s]
  | list items => bracketed (tokensOfItems items)
  | placeholder => [.placeholder]

def tokensOfItems : List Operand → List Token
  | [] => []
  | [x] => x.tokens
  | x :: xs => x.tokens ++ .comma :: tokensOfItems xs

end

mutual

/-- An operand whose text is read as its tokens, as far as it is no matter of brackets. -/
def Legible : Operand → Prop
  | key name => (Token.key name).Legible
  | number n => n.Legible
  | list items => LegibleItems items
  | _ => True

def LegibleItems : List Operand → Prop
  | [] => True
  | x :: xs => x.Legible ∧ LegibleItems xs

end

theorem tokens_of_operand? {t : Token} {x : Operand} (h : t.operand? = some x) :
    x.tokens = [t] := by
  cases t <;> cases h <;> rfl

theorem isList_of_operand? {t : Token} {x : Operand} (h : t.operand? = some x) :
    x.isList = false := by
  cases t <;> cases h <;> rfl

theorem legible_of_operand? {t : Token} {x : Operand} (h : t.operand? = some x) :
    x.Legible ↔ t.Legible := by
  cases t <;> cases h <;> simp [Legible, Token.Legible]

theorem exists_token {x : Operand} (h : x.isList = false) : ∃ t : Token, t.operand? = some x := by
  cases x with
  | key name => exact ⟨.key name, rfl⟩
  | null => exact ⟨.null, rfl⟩
  | boolean b => exact ⟨.boolean b, rfl⟩
  | number n => exact ⟨.number n, rfl⟩
  | string s => exact ⟨.string s, rfl⟩
  | list items => cases h
  | placeholder => exact ⟨.placeholder, rfl⟩

theorem legibleItems_iff {xs : List Operand} : LegibleItems xs ↔ ∀ x ∈ xs, x.Legible := by
  induction xs with
  | nil => simp [LegibleItems]
  | cons x xs ih => simp [LegibleItems, ih]

theorem tokensOfItems_cons_cons (x y : Operand) (ys : List Operand) :
    tokensOfItems (x :: y :: ys) = x.tokens ++ .comma :: tokensOfItems (y :: ys) := rfl

theorem tokensOfItems_concat {xs : List Operand} (nonempty : xs ≠ []) (x : Operand) :
    tokensOfItems (xs ++ [x]) = tokensOfItems xs ++ .comma :: x.tokens := by
  induction xs with
  | nil => exact absurd rfl nonempty
  | cons y ys ih =>
    cases ys with
    | nil => rfl
    | cons z zs =>
      have others := ih (List.cons_ne_nil z zs)
      rw [List.cons_append] at others
      simp only [List.cons_append, tokensOfItems, others, List.append_assoc]

/-- No operand starts with a closing bracket. -/
theorem tokens_ne_rightParen (x : Operand) (us vs : List Token) :
    x.tokens ++ us ≠ .rightParen :: vs := by
  cases x <;> simp [tokens, bracketed]

mutual

/-- The tokens of an operand tell where it ends, and which operand it is. -/
theorem tokens_inj : (x y : Operand) → {us vs : List Token} →
    x.tokens ++ us = y.tokens ++ vs → x = y ∧ us = vs
  | list xs, y, us, vs, h => by
    cases y with
    | list ys =>
      simp only [tokens, bracketed, List.cons_append, List.append_assoc, List.nil_append,
        List.cons.injEq, true_and] at h
      obtain ⟨rfl, rfl⟩ := tokensOfItems_inj xs ys h
      exact ⟨rfl, rfl⟩
    | _ => simp [tokens, bracketed] at h
  | key _, y, _, _, h => by cases y <;> simp_all [tokens, bracketed]
  | null, y, _, _, h => by cases y <;> simp_all [tokens, bracketed]
  | boolean _, y, _, _, h => by cases y <;> simp_all [tokens, bracketed]
  | number _, y, _, _, h => by cases y <;> simp_all [tokens, bracketed]
  | string _, y, _, _, h => by cases y <;> simp_all [tokens, bracketed]
  | placeholder, y, _, _, h => by cases y <;> simp_all [tokens, bracketed]

theorem tokensOfItems_inj : (xs ys : List Operand) → {us vs : List Token} →
    tokensOfItems xs ++ .rightParen :: us = tokensOfItems ys ++ .rightParen :: vs →
      xs = ys ∧ us = vs
  | [], [], _, _, h => by simpa [tokensOfItems] using h
  | [], [y], _, _, h => absurd h.symm (y.tokens_ne_rightParen _ _)
  | [], y :: z :: ys, _, _, h => by
    rw [tokensOfItems_cons_cons, List.append_assoc] at h
    exact absurd h.symm (y.tokens_ne_rightParen _ _)
  | [x], [], _, _, h => absurd h (x.tokens_ne_rightParen _ _)
  | x :: z :: xs, [], _, _, h => by
    rw [tokensOfItems_cons_cons, List.append_assoc] at h
    exact absurd h (x.tokens_ne_rightParen _ _)
  | [x], [y], _, _, h => by
    obtain ⟨rfl, rest⟩ := tokens_inj x y h
    exact ⟨rfl, List.tail_eq_of_cons_eq rest⟩
  | [x], y :: z :: ys, _, _, h => by
    rw [tokensOfItems_cons_cons, List.append_assoc] at h
    cases (tokens_inj x y h).2
  | x :: z :: xs, [y], _, _, h => by
    rw [tokensOfItems_cons_cons, List.append_assoc] at h
    cases (tokens_inj x y h).2
  | x :: z :: xs, y :: w :: ys, _, _, h => by
    rw [tokensOfItems_cons_cons, tokensOfItems_cons_cons, List.append_assoc,
      List.append_assoc] at h
    obtain ⟨rfl, rest⟩ := tokens_inj x y h
    obtain ⟨others, end'⟩ := tokensOfItems_inj (z :: xs) (w :: ys) (List.tail_eq_of_cons_eq rest)
    exact ⟨by rw [others], end'⟩

end

mutual

theorem spells_tokens (x : Operand) (h : x.Legible) : Spells x.chars x.tokens := by
  cases list : x.isList with
  | true =>
    cases x with
    | list items => exact (spells_tokensOfItems items h).bracketed
    | _ => cases list
  | false =>
    obtain ⟨t, value⟩ := exists_token list
    rw [tokens_of_operand? value]
    exact (((legible_of_operand? value).mp h).spelled value).spells

theorem spells_tokensOfItems : (xs : List Operand) → LegibleItems xs →
    Spells (charsOfItems xs) (tokensOfItems xs)
  | [], _ => .nil
  | [x], h => spells_tokens x h.1
  | x :: y :: ys, h => (spells_tokens x h.1).listed (spells_tokensOfItems (y :: ys) h.2)

end

end Operand

inductive Draft where
  | comparison (left : Operand) (op : Comparator) (right : Operand)
  | negation (inner : Draft)
  | join (left : Draft) (op : Connective) (right : Draft)

namespace Draft

def isJoin : Draft → Bool
  | join .. => true
  | _ => false

def chars : Draft → List Char
  | comparison left op right => left.chars ++ ' ' :: op.symbol.toList ++ ' ' :: right.chars
  | negation inner => "NOT ".toList ++ Condition.bracketed inner.chars
  | join left op right =>
    left.chars ++ ' ' :: op.symbol.toList ++
      ' ' :: if right.isJoin then Condition.bracketed right.chars else right.chars

def text (d : Draft) : String := String.ofList d.chars

def tokens : Draft → List Token
  | comparison left op right => left.tokens ++ .comparator op :: right.tokens
  | negation inner => .not :: bracketed inner.tokens
  | join left op right =>
    left.tokens ++ .connective op ::
      if right.isJoin then bracketed right.tokens else right.tokens

def depth : Draft → Nat
  | comparison .. => 1
  | negation inner => inner.depth + 1
  | join left _ right => max left.depth right.depth + 1

/-- How many brackets stand inside each other in the text. -/
def nesting : Draft → Nat
  | comparison _ _ right => if right.isList then 1 else 0
  | negation inner => inner.nesting + 1
  | join left _ right =>
    max left.nesting (if right.isJoin then right.nesting + 1 else right.nesting)

def placeholders : Draft → Nat
  | comparison _ _ right => right.placeholders
  | negation inner => inner.placeholders
  | join left _ right => left.placeholders + right.placeholders

/-- A draft whose text is read as its tokens. On the left of a comparator stands a key or a
literal. -/
def Legible : Draft → Prop
  | comparison left _ right =>
    left.Legible ∧ left.isList = false ∧ left ≠ .placeholder ∧ right.Legible
  | negation inner => inner.Legible
  | join left _ right => left.Legible ∧ right.Legible

theorem spells_tokens {d : Draft} (h : d.Legible) : Spells d.chars d.tokens := by
  induction d with
  | comparison left op right =>
    have first := left.spells_tokens h.1
    have second := (Token.spelled_comparator op).spells
    have spelled := first.spaced (second.spaced (right.spells_tokens h.2.2.2))
    simpa [chars, tokens] using spelled
  | negation inner ih => exact Token.spelled_not.spells.spaced (ih h).bracketed
  | join left op right first second =>
    have connective := (Token.spelled_connective op).spells
    cases shape : right.isJoin with
    | true =>
      have spelled := (first h.1).spaced (connective.spaced (second h.2).bracketed)
      simpa [chars, tokens, shape, Condition.bracketed] using spelled
    | false =>
      have spelled := (first h.1).spaced (connective.spaced (second h.2))
      simpa [chars, tokens, shape] using spelled

end Draft

namespace Condition

def draft : Condition → Draft
  | comparison c => .comparison c.left c.op c.right
  | negation inner => .negation inner.draft
  | join left op right => .join left.draft op right.draft

@[simp] theorem isJoin_draft (c : Condition) : c.draft.isJoin = c.isJoin := by
  cases c <;> rfl

@[simp] theorem chars_draft (c : Condition) : c.draft.chars = c.chars := by
  induction c with
  | comparison c => rfl
  | negation inner ih => rw [draft, Draft.chars, chars, ih]
  | join left op right first second =>
    rw [draft, Draft.chars, chars, first, second, isJoin_draft]

theorem text_draft (c : Condition) : c.draft.text = c.text := by
  rw [Draft.text, text, chars_draft]

@[simp] theorem depth_draft (c : Condition) : c.draft.depth = c.depth := by
  induction c with
  | comparison c => rfl
  | negation inner ih => rw [draft, Draft.depth, depth, ih]
  | join left op right first second => rw [draft, Draft.depth, depth, first, second]

@[simp] theorem placeholders_draft (c : Condition) : c.draft.placeholders = c.placeholders := by
  induction c with
  | comparison c => rfl
  | negation inner ih => rw [draft, Draft.placeholders, placeholders, ih]
  | join left op right first second =>
    rw [draft, Draft.placeholders, placeholders, first, second]

end Condition
end RecordFilter
