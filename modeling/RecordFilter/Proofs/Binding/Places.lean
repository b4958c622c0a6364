import RecordFilter.Proofs.Binding.Fill

namespace RecordFilter

def placesIn (ls : List Lexeme) : List Lexeme := ls.filter (·.token = .placeholder)

namespace Reader

/-- What is left to read of a text, with other texts in the places of some lexemes of it. -/
def replace (r : Reader) : List (Lexeme × List Char) → List Char
  | [] => r.rest
  | (l, cs) :: edits =>
    r.rest.take (l.start - r.offset) ++ cs ++ (r.advance (l.stop - r.offset)).replace edits

end Reader

/-- A text with other texts in the places of its placeholders, one after the other. -/
def fillPlaceholders (text : String) (values : List String) : String :=
  let r := Reader.ofText text
  String.ofList (r.replace ((placesIn r.lexemes.1).zip (values.map String.toList)))

namespace Reader

theorem next_start {r r' : Reader} {l : Lexeme} (h : r.next = (.lexeme l, r')) :
    r.offset ≤ l.start ∧ l.start < l.stop ∧ r'.offset = l.stop := by
  unfold Reader.next at h
  dsimp only at h
  split at h
  · cases h
  · split at h
    · cases h
      exact ⟨Nat.le_add_right .., Nat.lt_add_of_pos_right (Nat.succ_pos _), rfl⟩
    · cases h

theorem start_of_mem {r : Reader} {l : Lexeme} (h : l ∈ r.lexemes.1) :
    r.offset ≤ l.start ∧ l.start ≤ l.stop := by
  fun_induction lexemes r with
  | case1 r l' r' next shorter ls ending rest ih =>
    have first := next_start next
    rcases List.mem_cons.mp h with rfl | h
    · exact ⟨first.1, Nat.le_of_lt first.2.1⟩
    · have later := ih (by rw [rest]; exact h)
      omega
  | case2 => cases h
  | case3 => cases h

def Behind (r : Reader) (edits : List (Lexeme × List Char)) : Prop :=
  ∀ e ∈ edits, r.offset ≤ e.1.start ∧ e.1.start ≤ e.1.stop

/-- A text before all edits stays. -/
theorem replace_append (cs rest : List Char) (offset : Nat) {edits : List (Lexeme × List Char)}
    (behind : (Reader.mk rest (offset + cs.length)).Behind edits) :
    (Reader.mk (cs ++ rest) offset).replace edits =
      cs ++ (Reader.mk rest (offset + cs.length)).replace edits := by
  cases edits with
  | nil => rfl
  | cons e edits =>
    obtain ⟨l, value⟩ := e
    obtain ⟨low, order⟩ := behind _ List.mem_cons_self
    dsimp only at low order
    have start : l.start - offset = cs.length + (l.start - (offset + cs.length)) := by omega
    have stop : l.stop - offset = cs.length + (l.stop - (offset + cs.length)) := by omega
    have sum : offset + (cs.length + (l.stop - (offset + cs.length))) =
        offset + cs.length + (l.stop - (offset + cs.length)) := by omega
    simp only [replace, advance, start, stop, sum, List.take_length_add_append,
      List.drop_length_add_append, List.append_assoc]

/-- From one reader to a later one these texts are put in the places of the placeholders, which
gives a text in place of what is read. -/
def Fills (r : Reader) (values : List (List Char)) (out : List Char) (r' : Reader) : Prop :=
  ∃ ls, r.lexemes.1 = ls ++ r'.lexemes.1 ∧ (placesIn ls).length = values.length ∧
    r.offset ≤ r'.offset ∧ ∀ edits, r'.Behind edits →
      r.replace ((placesIn ls).zip values ++ edits) = out ++ r'.replace edits

theorem Fills.trans {r r' r'' : Reader} {values others : List (List Char)} {out out' : List Char}
    (first : r.Fills values out r') (second : r'.Fills others out' r'') :
    r.Fills (values ++ others) (out ++ out') r'' := by
  obtain ⟨ls, read, count, order, replaced⟩ := first
  obtain ⟨ms, read', count', order', replaced'⟩ := second
  refine ⟨ls ++ ms, by rw [read, read', List.append_assoc], ?_, by omega, ?_⟩
  · rw [placesIn, List.filter_append, List.length_append, List.length_append, ← count, ← count']
    rfl
  · intro edits behind
    have later : r'.Behind ((placesIn ms).zip others ++ edits) := by
      intro e member
      rcases List.mem_append.mp member with member | member
      · have place : e.1 ∈ ms := List.mem_of_mem_filter (List.of_mem_zip member).1
        exact start_of_mem (by rw [read']; exact List.mem_append_left _ place)
      · have late := behind e member
        omega
    have split : (placesIn (ls ++ ms)).zip (values ++ others) =
        (placesIn ls).zip values ++ (placesIn ms).zip others := by
      rw [placesIn, List.filter_append]
      exact List.zip_append count
    rw [split, List.append_assoc, replaced _ later, replaced' _ behind, List.append_assoc]

theorem fills_of_passes (cs : List Char) {rest : List Char} {offset : Nat} {ts : List Token}
    (h : (Reader.mk (cs ++ rest) offset).Passes ts ⟨rest, offset + cs.length⟩)
    (literal : .placeholder ∉ ts) :
    (Reader.mk (cs ++ rest) offset).Fills [] cs ⟨rest, offset + cs.length⟩ := by
  obtain ⟨ls, rfl, read⟩ := h
  have none : placesIn ls = [] := by
    rw [placesIn, List.filter_eq_nil_iff]
    intro l member place
    exact literal (List.mem_map.mpr ⟨l, member, of_decide_eq_true place⟩)
  refine ⟨ls, by rw [read], by simp [none], Nat.le_add_right .., fun edits behind => ?_⟩
  rw [none, List.zip_nil_left, List.nil_append]
  exact replace_append cs rest offset behind

theorem fills_placeholder (value rest : List Char) (offset : Nat) :
    (Reader.mk ('?' :: rest) offset).Fills [value] value ⟨rest, offset + 1⟩ := by
  have next : (Reader.mk ('?' :: rest) offset).next =
      (.lexeme ⟨.placeholder, offset, offset + 1⟩, ⟨rest, offset + 1⟩) := by
    simp [Reader.next, skipBlanks_visible rest offset (show Unicode.isBlank '?' = false from rfl),
      Scan.read, advance]
  refine ⟨[⟨.placeholder, offset, offset + 1⟩], ?_, rfl, Nat.le_succ _, fun edits behind => ?_⟩
  · rw [lexemes_eq, next]
    rfl
  · simp [placesIn, replace, advance]

end Reader

/-- In a text before anything that ends a token these texts are put in the places of the
placeholders, which gives another text. -/
def Filled (cs : List Char) (values : List (List Char)) (cs' : List Char) : Prop :=
  ∀ rest, Boundary rest → ∀ offset,
    (Reader.mk (cs ++ rest) offset).Fills values cs' ⟨rest, offset + cs.length⟩

theorem Token.Spelled.filled {t : Token} {cs : List Char} (h : t.Spelled cs)
    (literal : t ≠ .placeholder) : Filled cs [] cs := by
  obtain ⟨c, tail, rfl, visible, read⟩ := h
  intro rest boundary offset
  have passed := Reader.passes_token visible (read offset rest boundary)
  rw [List.drop_left] at passed
  exact Reader.fills_of_passes _ passed (by simpa using literal.symm)

namespace Filled

variable {a a' b b' cs cs' : List Char} {values others : List (List Char)}

theorem nil : Filled [] [] [] := fun _ _ _ =>
  ⟨[], rfl, rfl, Nat.le_refl _, fun _ _ => rfl⟩

theorem placeholder (value : List Char) : Filled ['?'] [value] value :=
  fun rest _ offset => Reader.fills_placeholder value rest offset

theorem between {c : Char} {ts : List Token} (first : Filled a values a')
    (second : Filled b others b') (ends : c = ' ' ∨ c = ')' ∨ c = ',')
    (passes : ∀ rest offset, (Reader.mk (c :: rest) offset).Passes ts ⟨rest, offset + 1⟩)
    (literal : .placeholder ∉ ts) :
    Filled (a ++ c :: b) (values ++ others) (a' ++ c :: b') := by
  intro rest boundary offset
  have left := first (c :: (b ++ rest)) (.cons _ ends) offset
  have middle : (Reader.mk (c :: (b ++ rest)) (offset + a.length)).Fills [] [c]
      ⟨b ++ rest, offset + a.length + 1⟩ :=
    Reader.fills_of_passes [c] (passes _ _) literal
  have right := second rest boundary (offset + a.length + 1)
  have place : offset + a.length + 1 + b.length = offset + (a ++ c :: b).length := by
    simp only [List.length_append, List.length_cons]
    omega
  rw [place] at right
  rw [List.append_assoc, List.cons_append]
  exact left.trans (middle.trans right)

theorem spaced (first : Filled a values a') (second : Filled b others b') :
    Filled (a ++ ' ' :: b) (values ++ others) (a' ++ ' ' :: b') :=
  first.between second (.inl rfl) (fun rest offset => Reader.passes_blank rest offset rfl) (by simp)

theorem comma (first : Filled a values a') (second : Filled b others b') :
    Filled (a ++ ',' :: b) (values ++ others) (a' ++ ',' :: b') :=
  first.between second (.inr (.inr rfl))
    (fun rest offset => Reader.passes_symbol (t := .comma) rest offset rfl rfl) (by simp)

theorem bracketed (inner : Filled cs values cs') :
    Filled ('(' :: cs ++ [')']) values ('(' :: cs' ++ [')']) := by
  intro rest boundary offset
  have closed := inner.between nil (.inr (.inl rfl))
    (fun rest offset => Reader.passes_symbol (t := .rightParen) rest offset rfl rfl) (by simp)
  have left : (Reader.mk ('(' :: (cs ++ [')'] ++ rest)) offset).Fills [] ['(']
      ⟨cs ++ [')'] ++ rest, offset + 1⟩ :=
    Reader.fills_of_passes ['('] (Reader.passes_symbol (t := .leftParen) _ _ rfl rfl)
      (by simp)
  have right := closed rest boundary (offset + 1)
  have place : offset + 1 + (cs ++ [')']).length = offset + ('(' :: cs ++ [')']).length := by
    simp only [List.cons_append, List.length_cons]
    omega
  rw [place, List.append_nil] at right
  exact left.trans right

end Filled

namespace Operand

theorem filled_literal {x : Operand} (h : x.Legible) (single : x.isList = false)
    (literal : x ≠ .placeholder) : Filled x.chars [] x.chars := by
  obtain ⟨t, value⟩ := exists_token single
  have token : t ≠ .placeholder := by
    rintro rfl
    exact literal (Option.some.inj value).symm
  exact (((legible_of_operand? value).mp h).spelled value).filled token

mutual

theorem filled_chars (x : Operand) (xs : List Operand) (h : x.Legible)
    (count : xs.length = x.placeholders) : Filled x.chars (xs.map chars) (x.fill xs).chars := by
  cases x with
  | placeholder =>
    obtain ⟨y, rfl⟩ := List.length_eq_one_iff.mp count
    exact .placeholder y.chars
  | list items => exact (filled_charsOfItems items xs h count).bracketed
  | _ =>
    obtain rfl := List.length_eq_zero_iff.mp count
    exact filled_literal h rfl (by simp)

theorem filled_charsOfItems : (ys : List Operand) → (xs : List Operand) → LegibleItems ys →
    xs.length = placeholdersIn ys →
    Filled (charsOfItems ys) (xs.map chars) (charsOfItems (fillItems xs ys))
  | [], xs, _, count => by
    obtain rfl := List.length_eq_zero_iff.mp count
    exact .nil
  | [y], xs, h, count => by
    have count : xs.length = y.placeholders := count
    rw [fillItems, List.take_of_length_le (Nat.le_of_eq count)]
    exact filled_chars y xs h.1 count
  | y :: z :: ys, xs, h, count => by
    rw [placeholdersIn] at count
    have first := filled_chars y (xs.take y.placeholders) h.1
      (by rw [List.length_take]; omega)
    have others := filled_charsOfItems (z :: ys) (xs.drop y.placeholders) h.2
      (by rw [List.length_drop]; omega)
    have listed := first.comma (Filled.nil.spaced others)
    simp only [List.nil_append] at listed
    rw [← List.map_append, List.take_append_drop] at listed
    exact listed

end

end Operand

namespace Draft

theorem filled_chars {d : Draft} (xs : List Operand) (h : d.Legible)
    (count : xs.length = d.placeholders) :
    Filled d.chars (xs.map Operand.chars) (d.fill xs).chars := by
  induction d generalizing xs with
  | comparison left op right =>
    have first := Operand.filled_literal h.1 h.2.1 h.2.2.1
    have second := (Token.spelled_comparator op).filled (by simp)
    have filled := first.spaced (second.spaced (right.filled_chars xs h.2.2.2 count))
    simpa [chars, fill] using filled
  | negation inner ih => exact (Token.spelled_not.filled (by simp)).spaced (ih xs h count).bracketed
  | join left op right first second =>
    rw [placeholders] at count
    have before := first (xs.take left.placeholders) h.1 (by rw [List.length_take]; omega)
    have behind := second (xs.drop left.placeholders) h.2 (by rw [List.length_drop]; omega)
    have connective := (Token.spelled_connective op).filled (by simp)
    have values : xs.map Operand.chars =
        (xs.take left.placeholders).map Operand.chars ++ ([] ++
          (xs.drop left.placeholders).map Operand.chars) := by
      rw [List.nil_append, ← List.map_append, List.take_append_drop]
    rw [values]
    cases shape : right.isJoin with
    | true =>
      have filled := before.spaced (connective.spaced behind.bracketed)
      simpa [chars, fill, shape, Condition.bracketed] using filled
    | false =>
      have filled := before.spaced (connective.spaced behind)
      simpa [chars, fill, shape] using filled

/-- To fill the placeholders of a draft is to fill those of its text. -/
theorem fillPlaceholders_text {d : Draft} {xs : List Operand} (h : d.Legible)
    (count : xs.length = d.placeholders) :
    fillPlaceholders d.text (xs.map Operand.text) = (d.fill xs).text := by
  obtain ⟨ls, read, -, -, replaced⟩ := filled_chars xs h count [] .nil 0
  have whole := replaced [] (by simp [Reader.Behind])
  rw [List.append_nil, Reader.lexemes_nil] at read
  have values : (xs.map Operand.text).map String.toList = xs.map Operand.chars := by
    simp [Operand.text, Function.comp_def]
  rw [List.append_nil] at read whole
  rw [fillPlaceholders, text, Reader.ofText, String.toList_ofList, values, read]
  rw [List.append_nil, Reader.replace, List.append_nil] at whole
  rw [whole, text]

end Draft
end RecordFilter
