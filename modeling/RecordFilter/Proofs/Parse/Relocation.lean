import RecordFilter.Proofs.Bracket.Basic
import RecordFilter.Proofs.Parse.Acceptance

namespace RecordFilter

variable {options : ParseOptions} (f : Nat → Nat)

def ParseError.relocate (e : ParseError) : ParseError := ⟨f e.offset, e.fault⟩

def Pending.relocate : Pending → Pending
  | nothing => nothing
  | folded c depth => folded c depth
  | joining c depth op offset => joining c depth op (f offset)

def Progress.relocate : Progress → Progress
  | nothing => nothing
  | left x offset => left x (f offset)
  | compared x op offset => compared x op (f offset)

def Region.relocate (r : Region) : Region where
  depth := r.depth
  pending := r.pending.relocate f
  progress := r.progress.relocate f
  negations := r.negations.map f
  held := r.held.map fun (x, offset) => (x, f offset)

def Bracket.relocate (b : Bracket) : Bracket :=
  { b with start := f b.start, stop := b.stop.map f }

def BracketTree.relocate (t : BracketTree) : BracketTree := ⟨t.brackets.map (·.relocate f)⟩

def OpenList.relocate (l : OpenList) : OpenList := { l with start := f l.start }

def OpenRegion.relocate (o : OpenRegion) : OpenRegion :=
  { o with start := f o.start, around := o.around.relocate f }

def ParseState.relocate (s : ParseState) : ParseState where
  region := s.region.relocate f
  outer := s.outer.map (·.relocate f)
  list := s.list.map (·.relocate f)
  brackets := s.brackets.relocate f

def Lexeme.Stands (l l' : Lexeme) : Prop := l'.token = l.token ∧ l'.start = f l.start

section

variable {α β α' β' : Type}

/-- An outcome at other places. -/
def relocated (g : α → β) : Except ParseError α → Except ParseError β
  | .ok a => .ok (g a)
  | .error e => .error (e.relocate f)

theorem relocated_bind {x : Except ParseError α} {k : α → Except ParseError β}
    {k' : α' → Except ParseError β'} {g : α → α'} {h : β → β'}
    (next : ∀ a, k' (g a) = relocated f h (k a)) :
    relocated f g x >>= k' = relocated f h (x >>= k) := by
  cases x with
  | error e => rfl
  | ok a => exact next a

theorem relocated_map {x : Except ParseError α} {k : α → β} {k' : α' → β'} {g : α → α'}
    {h : β → β'} (next : ∀ a, k' (g a) = h (k a)) :
    (relocated f g x).map k' = relocated f h (x.map k) := by
  cases x with
  | error e => rfl
  | ok a => exact congrArg Except.ok (next a)

end

namespace Region

variable {f}

@[simp] theorem nesting_relocate (r : Region) : (r.relocate f).nesting = r.nesting := by
  simp [nesting, relocate]

@[simp] theorem groupNesting_relocate (r : Region) :
    (r.relocate f).groupNesting = r.groupNesting := by
  simp [groupNesting, relocate]

theorem expectsOperand_relocate (r : Region) :
    (r.relocate f).expectsOperand = r.expectsOperand := by
  obtain ⟨d, p, progress, ns, held⟩ := r
  cases progress <;> cases held <;> rfl

theorem fold_relocate (r : Region) (c : Condition) (depth offset : Nat) :
    (r.relocate f).fold options c depth (f offset) =
      relocated f (relocate f) (r.fold options c depth offset) := by
  obtain ⟨d, p, progress, ns, held⟩ := r
  simp only [fold, relocate, List.length_map]
  split
  · rfl
  · cases p with
    | nothing => rfl
    | folded => rfl
    | joining =>
      simp only [Pending.relocate]
      split <;> rfl

theorem commit_relocate (r : Region) (x : Operand) (offset : Nat) :
    (r.relocate f).commit options x (f offset) =
      relocated f (relocate f) (r.commit options x offset) := by
  obtain ⟨d, p, progress, ns, held⟩ := r
  cases progress with
  | nothing => cases p <;> rfl
  | left => rfl
  | compared y op place =>
    simp only [commit, relocate, Progress.relocate]
    split
    · rfl
    · next c _ => exact fold_relocate ⟨d, p, .nothing, ns, held⟩ (.comparison c) 1 offset

theorem flush_relocate (r : Region) :
    (r.relocate f).flush options = relocated f (relocate f) (r.flush options) := by
  obtain ⟨d, p, progress, ns, held⟩ := r
  cases held with
  | none => rfl
  | some h => exact commit_relocate ⟨d, p, progress, ns, none⟩ h.1 h.2

theorem pushValue_relocate (r : Region) (x : Operand) (offset : Nat) :
    (r.relocate f).pushValue options x (f offset) =
      relocated f (relocate f) (r.pushValue options x offset) := by
  rw [pushValue, flush_relocate]
  exact relocated_bind f fun _ => rfl

theorem pushComparator_relocate (r : Region) (op : Comparator) (offset : Nat) :
    (r.relocate f).pushComparator options op (f offset) =
      relocated f (relocate f) (r.pushComparator options op offset) := by
  rw [pushComparator, flush_relocate]
  refine relocated_bind f fun r => ?_
  obtain ⟨d, p, progress, ns, held⟩ := r
  cases progress with
  | nothing => rfl
  | left x place =>
    simp only [relocate, Progress.relocate]
    cases x.leftFault op <;> rfl
  | compared => rfl

theorem pushConnective_relocate (r : Region) (op : Connective) (offset : Nat) :
    (r.relocate f).pushConnective options op (f offset) =
      relocated f (relocate f) (r.pushConnective options op offset) := by
  rw [pushConnective, flush_relocate]
  refine relocated_bind f fun r => ?_
  obtain ⟨d, p, progress, ns, held⟩ := r
  cases progress with
  | nothing => cases ns <;> cases p <;> rfl
  | left => rfl
  | compared => rfl

theorem pushNot_relocate (r : Region) (offset : Nat) :
    (r.relocate f).pushNot options (f offset) =
      relocated f (relocate f) (r.pushNot options offset) := by
  have count (r : Region) :
      (if options.maxDepth < (r.relocate f).nesting + 1 then
        throw ⟨f offset, .negationsTooDeep options.maxDepth⟩
      else return { r.relocate f with negations := (r.relocate f).negations ++ [f offset] } :
          Except ParseError Region) =
        relocated f (relocate f) (if options.maxDepth < r.nesting + 1 then
          throw ⟨offset, .negationsTooDeep options.maxDepth⟩
        else return { r with negations := r.negations ++ [offset] }) := by
    rw [nesting_relocate]
    split
    · rfl
    · simp [relocated, relocate, Pure.pure, Except.pure]
  obtain ⟨d, p, progress, ns, held⟩ := r
  cases progress with
  | nothing => exact count _
  | left => exact count _
  | compared x op place =>
    cases held with
    | none => rfl
    | some h =>
      let r : Region := ⟨d, p, .compared x op place, ns, some h⟩
      change (r.relocate f).flush options >>= _ = relocated f _ (r.flush options >>= _)
      rw [flush_relocate]
      exact relocated_bind f count

theorem pushCondition_relocate (r : Region) (c : Condition) (offset : Nat) :
    (r.relocate f).pushCondition options c (f offset) =
      relocated f (relocate f) (r.pushCondition options c offset) := by
  rw [pushCondition, flush_relocate]
  refine relocated_bind f fun r => ?_
  obtain ⟨d, p, progress, ns, held⟩ := r
  cases progress with
  | nothing => exact fold_relocate ⟨d, p, .nothing, ns, held⟩ c c.depth offset
  | left => rfl
  | compared => rfl

theorem pushExpression_relocate (r : Region) (e : Expression) (offset : Nat) :
    (r.relocate f).pushExpression options e (f offset) =
      relocated f (relocate f) (r.pushExpression options e offset) := by
  cases e with
  | operand x => exact r.pushValue_relocate x offset
  | condition c => exact r.pushCondition_relocate c offset

theorem finish_relocate (r : Region) (stop : Nat) :
    (r.relocate f).finish options (f stop) = relocated f id (r.finish options stop) := by
  rw [finish, flush_relocate]
  refine relocated_bind f fun r => ?_
  obtain ⟨d, p, progress, ns, held⟩ := r
  cases progress with
  | nothing => cases p <;> cases ns <;> rfl
  | left => cases p <;> cases ns <;> rfl
  | compared => rfl

end Region

namespace BracketTree

variable {f}

@[simp] theorem size_relocate (t : BracketTree) : (t.relocate f).size = t.size := by
  simp [size, relocate]

@[simp] theorem get?_relocate (t : BracketTree) (id : Nat) :
    (t.relocate f).get? id = (t.get? id).map (·.relocate f) := by
  simp [get?, relocate]

theorem push_relocate (t : BracketTree) (kind : BracketKind) (parent : Option Nat) (start : Nat) :
    (t.relocate f).push kind parent (f start) = (t.push kind parent start).relocate f := by
  apply ext_get?
  intro id
  simp only [get?_push, get?_relocate, size_relocate]
  by_cases new : id = t.size
  · simp only [new, if_true, Option.map_some]
    split <;> rfl
  · simp only [new, if_false, Option.map_map]
    congr 1
    funext b
    dsimp only [Function.comp_apply]
    split <;> rfl

theorem close_relocate (t : BracketTree) (id stop : Nat) :
    (t.relocate f).close id (f stop) = (t.close id stop).relocate f := by
  apply ext_get?
  intro other
  simp only [get?_close, get?_relocate, Option.map_map]
  congr 1
  funext b
  dsimp only [Function.comp_apply]
  split <;> rfl

end BracketTree

namespace ParseState

variable {f}

theorem start_relocate : ParseState.start.relocate f = .start := by
  simp [relocate, start, Region.relocate, Region.start, Pending.relocate, Progress.relocate,
    BracketTree.relocate, BracketTree.empty]

theorem parent_relocate (s : ParseState) : (s.relocate f).parent = s.parent := by
  obtain ⟨region, outer, list, brackets⟩ := s
  cases outer <;> rfl

theorem leftParen_relocate (s : ParseState) (offset : Nat) :
    (s.relocate f).leftParen options (f offset) =
      relocated f (relocate f) (s.leftParen options offset) := by
  have parent := s.parent_relocate (f := f)
  have same := s.region.expectsOperand_relocate (f := f)
  have push (kind : BracketKind) := s.brackets.push_relocate (f := f) kind s.parent offset
  cases expects : s.region.expectsOperand with
  | true =>
    rw [leftParen_list expects, leftParen_list (same.trans expects)]
    simp only [relocate, Region.nesting_relocate, BracketTree.size_relocate] at parent ⊢
    split
    · rfl
    · rw [parent, push]
      rfl
  | false =>
    rw [leftParen_group expects, leftParen_group (same.trans expects)]
    simp only [relocate, Region.groupNesting_relocate, BracketTree.size_relocate] at parent ⊢
    split
    · rfl
    · rw [parent, push]
      rfl

theorem rightParen_relocate (s : ParseState) (offset : Nat) :
    (s.relocate f).rightParen options (f offset) =
      relocated f (relocate f) (s.rightParen options offset) := by
  obtain ⟨region, outer, list, brackets⟩ := s
  cases outer with
  | nil => rfl
  | cons group outer =>
    simp only [relocate, List.map_cons, rightParen_cons, Region.finish_relocate]
    refine relocated_bind f fun e => ?_
    simp only [id, OpenRegion.relocate, Region.pushExpression_relocate]
    refine relocated_bind f fun region => ?_
    rw [BracketTree.close_relocate]
    rfl

theorem inList_relocate (s : ParseState) (l : OpenList) (t : Token) (offset : Nat) :
    (s.relocate f).inList options (l.relocate f) t (f offset) =
      relocated f (relocate f) (s.inList options l t offset) := by
  obtain ⟨region, outer, list, brackets⟩ := s
  obtain ⟨id, start, xs, expected⟩ := l
  have close : (region.relocate f).pushValue options (.list xs.reverse) (f start) = _ :=
    region.pushValue_relocate (.list xs.reverse) start
  unfold inList
  split
  · rfl
  · rfl
  -- the two choices are the same one only up to unfolding
  · by_cases closes : t = .rightParen ∧ (xs = [] ∨ ¬expected = true)
    · refine (if_pos closes).trans (.trans ?_ (congrArg (relocated f _) (if_pos closes)).symm)
      refine close ▸ relocated_bind f fun region => ?_
      simp only [relocate, BracketTree.close_relocate]
      rfl
    · refine (if_neg closes).trans (.trans ?_ (congrArg (relocated f _) (if_neg closes)).symm)
      cases expected with
      | true => cases t.operand? <;> rfl
      | false =>
        by_cases comma : t = .comma
        · subst comma
          rfl
        · simp only [OpenList.relocate, Bool.false_eq_true, if_false, if_neg comma]
          rfl

theorem inRegion_relocate (s : ParseState) (t : Token) (offset : Nat) :
    (s.relocate f).inRegion options t (f offset) =
      relocated f (relocate f) (s.inRegion options t offset) := by
  have go {push push' : Except ParseError Region}
      (h : push' = relocated f (Region.relocate f) push) :
      push'.map (fun region => { s.relocate f with region }) =
        relocated f (relocate f) (push.map fun region => { s with region }) := by
    rw [h]
    exact relocated_map f fun _ => rfl
  cases t with
  | comparator op => exact go (s.region.pushComparator_relocate op offset)
  | connective op => exact go (s.region.pushConnective_relocate op offset)
  | not => exact go (s.region.pushNot_relocate offset)
  | leftParen => exact s.leftParen_relocate offset
  | rightParen => exact s.rightParen_relocate offset
  | comma => rfl
  | _ => exact go (s.region.pushValue_relocate _ offset)

theorem step_relocate (s : ParseState) {l l' : Lexeme} (h : l.Stands f l') :
    step options (s.relocate f) l' = relocated f (relocate f) (step options s l) := by
  obtain ⟨token, start⟩ := h
  obtain ⟨region, outer, list, brackets⟩ := s
  rw [step, step, token, start]
  cases list with
  | none => exact inRegion_relocate ⟨region, outer, none, brackets⟩ l.token l.start
  | some list => exact inList_relocate ⟨region, outer, some list, brackets⟩ list l.token l.start

theorem run_relocate (s : ParseState) {ls ls' : List Lexeme}
    (h : List.Forall₂ (Lexeme.Stands f) ls ls') :
    ls'.foldlM (step options) (s.relocate f) =
      relocated f (relocate f) (ls.foldlM (step options) s) := by
  induction h generalizing s with
  | nil => rfl
  | cons first _ ih =>
    rw [List.foldlM_cons, List.foldlM_cons, step_relocate s first]
    exact relocated_bind f ih

theorem finish_relocate (s : ParseState) (stop : Nat) :
    (s.relocate f).finish options (f stop) = relocated f id (s.finish options stop) := by
  obtain ⟨region, outer, list, brackets⟩ := s
  cases list with
  | some list => rfl
  | none =>
    cases outer with
    | nil => exact region.finish_relocate stop
    | cons => rfl

end ParseState

def Parsed.relocate (p : Parsed) : Parsed := { p with brackets := p.brackets.relocate f }

variable (options) in
theorem parseLexemes_relocate {f} {ls ls' : List Lexeme}
    (h : List.Forall₂ (Lexeme.Stands f) ls ls') (stop : Nat) :
    parseLexemes options ls' (f stop) =
      relocated f (Parsed.relocate f) (parseLexemes options ls stop) := by
  rw [parseLexemes, ← ParseState.start_relocate (f := f), ParseState.run_relocate .start h]
  refine relocated_bind f fun s => ?_
  rw [ParseState.finish_relocate]
  exact relocated_bind f fun _ => rfl

/-- Tokens that stand at their own numbers. -/
def numbered (ts : List Token) : List Lexeme := ts.mapIdx fun i t => ⟨t, i, i⟩

/-- Where a token stands, by its number. The end of the text has the number after the last. -/
def tokenStart (ls : List Lexeme) (stop i : Nat) : Nat := (ls[i]?.map (·.start)).getD stop

theorem tokenStart_length (ls : List Lexeme) (stop : Nat) :
    tokenStart ls stop ls.length = stop := by
  simp [tokenStart]

theorem numbered_stands {ls : List Lexeme} (stop : Nat) :
    List.Forall₂ (Lexeme.Stands (tokenStart ls stop)) (numbered (ls.map (·.token))) ls := by
  rw [List.forall₂_iff_get]
  refine ⟨by simp [numbered], fun i _ bound => ?_⟩
  simp [Lexeme.Stands, numbered, tokenStart, bound]

theorem numbered_fixed {ts : List Token} {f : Nat → Nat} (fixed : ∀ i < ts.length, f i = i) :
    List.Forall₂ (Lexeme.Stands f) (numbered ts) (numbered ts) := by
  rw [List.forall₂_iff_get]
  refine ⟨rfl, fun i bound _ => ?_⟩
  have bound : i < ts.length := by simpa [numbered] using bound
  simp [Lexeme.Stands, numbered, fixed i bound]

/-- A text is read as its numbered tokens are, with the place of each token for its number. -/
theorem parse_eq_numbered {text : String} {ls : List Lexeme} {stop : Nat}
    (h : tokenize text = .ok (ls, stop)) :
    parse text options = relocated (tokenStart ls stop) (Parsed.relocate (tokenStart ls stop))
      (parseLexemes options (numbered (ls.map (·.token))) ls.length) := by
  rw [parse_of_tokenize h, ← parseLexemes_relocate options (numbered_stands stop),
    tokenStart_length]

/-- Of numbered tokens every bracket opens and closes at a token: to move the places behind the last
token moves no bracket. -/
theorem brackets_of_numbered {ts : List Token} {stop : Nat} {p : Parsed}
    (h : parseLexemes options (numbered ts) stop = .ok p) {id : Nat} {b : Bracket}
    (hb : p.brackets.get? id = some b) : b.start < ts.length ∧ ∀ i ∈ b.stop, i < ts.length := by
  let f (i : Nat) : Nat := if i < ts.length then i else i + 1
  have fixed (i : Nat) (hi : f i = i) : i < ts.length := by
    by_contra beyond
    simp [f, beyond] at hi
  obtain ⟨s, run, h⟩ := bind_eq_ok.mp h
  obtain ⟨e, -, h⟩ := bind_eq_ok.mp h
  injection h with h
  subst h
  have moved : (numbered ts).foldlM (ParseState.step options) (ParseState.start.relocate f) = _ :=
    ParseState.run_relocate .start (numbered_fixed fun i hi => if_pos hi)
  rw [ParseState.start_relocate, run] at moved
  injection moved with moved
  have whole : s.brackets = s.brackets.relocate f := congrArg ParseState.brackets moved
  have same : b.relocate f = b := by
    have found : s.brackets.get? id = (s.brackets.get? id).map (·.relocate f) := by
      rw [← BracketTree.get?_relocate, ← whole]
    rw [hb] at found
    injection found with found
    exact found.symm
  refine ⟨fixed _ (congrArg Bracket.start same), fun i hi => fixed _ ?_⟩
  have stop : b.stop.map f = b.stop := congrArg Bracket.stop same
  rw [Option.mem_def.mp hi] at stop
  injection stop

theorem offset_of_numbered {ts : List Token} {e : ParseError}
    (h : parseLexemes options (numbered ts) ts.length = .error e) : e.offset ≤ ts.length := by
  let f (i : Nat) : Nat := if i ≤ ts.length then i else i + 1
  have stands : List.Forall₂ (Lexeme.Stands f) (numbered ts) (numbered ts) :=
    numbered_fixed fun i hi => if_pos (Nat.le_of_lt hi)
  have moved := parseLexemes_relocate options stands ts.length
  rw [show f ts.length = ts.length from if_pos (Nat.le_refl _), h] at moved
  injection moved with moved
  have same : e.offset = f e.offset := congrArg ParseError.offset moved
  by_contra beyond
  simp [f, beyond] at same

/-- Two texts with the same tokens: both are read, as the same expression and with the same brackets
around the same tokens, or both are refused, for the same reason at the same token. -/
theorem parse_of_same_tokens {text text' : String} {ls ls' : List Lexeme} {stop stop' : Nat}
    (options : ParseOptions) (first : tokenize text = .ok (ls, stop))
    (second : tokenize text' = .ok (ls', stop'))
    (same : ls.map (·.token) = ls'.map (·.token)) :
    (∃ (e : Expression) (t : BracketTree),
      (∀ id b, t.get? id = some b → b.start < ls.length ∧ ∀ i ∈ b.stop, i < ls.length) ∧
      parse text options = .ok ⟨e, t.relocate (tokenStart ls stop)⟩ ∧
      parse text' options = .ok ⟨e, t.relocate (tokenStart ls' stop')⟩) ∨
    ∃ i fault, i ≤ ls.length ∧
      parse text options = .error ⟨tokenStart ls stop i, fault⟩ ∧
      parse text' options = .error ⟨tokenStart ls' stop' i, fault⟩ := by
  have length : ls'.length = ls.length := by
    simpa using (congrArg List.length same).symm
  rw [parse_eq_numbered first, parse_eq_numbered second, ← same, length]
  cases read : parseLexemes options (numbered (ls.map (·.token))) ls.length with
  | ok p =>
    refine .inl ⟨p.expression, p.brackets, fun id b hb => ?_, rfl, rfl⟩
    simpa using brackets_of_numbered read hb
  | error e =>
    rw [← List.length_map (·.token)] at read
    have bound := offset_of_numbered read
    exact .inr ⟨e.offset, e.fault, by simpa using bound, rfl, rfl⟩

/-- A list with other blanks in it, with its operator and its element spelled in another way. -/
theorem parse_of_same_tokens_list :
    ∃ ls ls', tokenize "a IN(1)" = .ok (ls, 7) ∧ tokenize "a in ( 01 ) " = .ok (ls', 12) ∧
      ls.map (·.token) = ls'.map (·.token) ∧
      ((∃ (e : Expression) (t : BracketTree),
        (∀ id b, t.get? id = some b → b.start < ls.length ∧ ∀ i ∈ b.stop, i < ls.length) ∧
        parse "a IN(1)" = .ok ⟨e, t.relocate (tokenStart ls 7)⟩ ∧
        parse "a in ( 01 ) " = .ok ⟨e, t.relocate (tokenStart ls' 12)⟩) ∨
      ∃ i fault, i ≤ ls.length ∧
        parse "a IN(1)" = .error ⟨tokenStart ls 7 i, fault⟩ ∧
        parse "a in ( 01 ) " = .error ⟨tokenStart ls' 12 i, fault⟩) := by
  have first : tokenize "a IN(1)" = .ok ([⟨.key "a", 0, 1⟩, ⟨.comparator .member, 2, 4⟩,
      ⟨.leftParen, 4, 5⟩, ⟨.number (.ofInt64 1), 5, 6⟩, ⟨.rightParen, 6, 7⟩], 7) := by cbv
  have second : tokenize "a in ( 01 ) " = .ok ([⟨.key "a", 0, 1⟩, ⟨.comparator .member, 2, 4⟩,
      ⟨.leftParen, 5, 6⟩, ⟨.number (.ofInt64 1), 7, 9⟩, ⟨.rightParen, 10, 11⟩], 12) := by cbv
  exact ⟨_, _, first, second, rfl, parse_of_same_tokens {} first second rfl⟩

end RecordFilter
