import RecordFilter.Proofs.Parse.Region

namespace RecordFilter

/-- The depth that is kept with a tree is its depth, and within a limit. -/
def Pending.Measured (limit : Nat) : Pending → Prop
  | nothing => True
  | folded c depth => depth = c.depth ∧ depth ≤ limit
  | joining c depth _ _ => depth = c.depth ∧ depth ≤ limit

namespace Region

/-- What can be pushed on a region. -/
inductive Push where
  | value (x : Operand) (offset : Nat)
  | comparator (op : Comparator) (offset : Nat)
  | connective (op : Connective) (offset : Nat)
  | not (offset : Nat)
  | condition (c : Condition) (offset : Nat)

def push (options : ParseOptions) (r : Region) : Push → Except ParseError Region
  | .value x offset => r.pushValue options x offset
  | .comparator op offset => r.pushComparator options op offset
  | .connective op offset => r.pushConnective options op offset
  | .not offset => r.pushNot options offset
  | .condition c offset => r.pushCondition options c offset

/-- The invariant of a region of depth `d`. -/
structure Sound (options : ParseOptions) (d : Nat) (r : Region) : Prop where
  depth_eq : r.depth = d
  /-- A folded condition without a connective stands beside no comparison in progress. -/
  apart : ∀ c depth, r.pending = .folded c depth → r.progress = .nothing
  measured : r.pending.Measured options.maxExpressionDepth
  /-- The value in front of a comparator is a legal left side of it. -/
  legal : ∀ x op offset, r.progress = .compared x op offset → x.leftFault op = none
  nested : r.depth + r.negations.length ≤ max r.depth options.maxDepth

variable {options : ParseOptions} {d : Nat} {r r' : Region}

theorem start_sound (options : ParseOptions) (d : Nat) : (start d).Sound options d :=
  ⟨rfl, nofun, trivial, nofun, Nat.le_max_left ..⟩

theorem Sound.hold (sound : r.Sound options d) (held : Option (Operand × Nat)) :
    Sound options d { r with held } :=
  ⟨sound.depth_eq, sound.apart, sound.measured, sound.legal, sound.nested⟩

/-- Folding ends the negations, and leaves a condition whose depth is known and within the limit. -/
theorem fold_folded {c : Condition} {offset : Nat}
    (measured : r.pending.Measured options.maxExpressionDepth)
    (h : r.fold options c c.depth offset = .ok r') :
    ∃ tree depth, r' = { r with pending := .folded tree depth, negations := [] } ∧
      depth = tree.depth ∧ depth ≤ options.maxExpressionDepth := by
  have inner := depth_negate c r.negations.length
  unfold fold at h
  dsimp only at h
  split at h
  · cases h
  · next room =>
    split at h
    · cases h
      exact ⟨_, _, rfl, inner.symm, Nat.not_lt.mp room⟩
    · cases h
    · next left leftDepth op opOffset joined =>
      rw [joined] at measured
      obtain ⟨same, -⟩ := measured
      split at h
      · cases h
      · next joinedRoom =>
        cases h
        refine ⟨_, _, rfl, ?_, Nat.not_lt.mp joinedRoom⟩
        rw [Condition.depth, inner, same]

/-- A condition that is folded while no comparison is in progress keeps the invariant. -/
theorem fold_sound {c : Condition} {offset : Nat} (sound : r.Sound options d)
    (idle : r.progress = .nothing) (h : r.fold options c c.depth offset = .ok r') :
    r'.Sound options d := by
  obtain ⟨tree, depth, rfl, measured⟩ := fold_folded sound.measured h
  refine ⟨sound.depth_eq, fun _ _ _ => idle, measured, ?_, Nat.le_max_left ..⟩
  intro x op offset compared
  rw [idle] at compared
  cases compared

theorem commit_sound {x : Operand} {offset : Nat} (sound : r.Sound options d)
    (h : r.commit options x offset = .ok r') : r'.Sound options d := by
  unfold commit at h
  split at h
  · split at h
    · cases h
    · next unfolded =>
      cases h
      refine ⟨sound.depth_eq, ?_, sound.measured, nofun, sound.nested⟩
      intro c depth folded
      exact absurd folded (unfolded c depth)
  · cases h
  · split at h
    · cases h
    · next c made =>
      have idle : Sound options d { r with progress := .nothing } :=
        ⟨sound.depth_eq, fun _ _ _ => rfl, sound.measured, nofun, sound.nested⟩
      exact fold_sound idle rfl h

theorem flush_sound (sound : r.Sound options d) (h : r.flush options = .ok r') :
    r'.Sound options d := by
  unfold flush at h
  split at h
  · cases h
    exact sound
  · exact commit_sound (sound.hold none) h

theorem pushValue_sound {x : Operand} {offset : Nat} (sound : r.Sound options d)
    (h : r.pushValue options x offset = .ok r') : r'.Sound options d := by
  obtain ⟨r₁, flushed, h⟩ := bind_eq_ok.mp h
  cases h
  exact (flush_sound sound flushed).hold _

theorem pushComparator_sound {op : Comparator} {offset : Nat} (sound : r.Sound options d)
    (h : r.pushComparator options op offset = .ok r') : r'.Sound options d := by
  obtain ⟨r₁, flushed, h⟩ := bind_eq_ok.mp h
  have sound₁ := flush_sound sound flushed
  split at h
  · next x place left =>
    split at h
    · cases h
    · next faultless =>
      cases h
      refine ⟨sound₁.depth_eq, ?_, sound₁.measured, ?_, sound₁.nested⟩
      · intro c depth folded
        have idle := sound₁.apart c depth folded
        rw [left] at idle
        cases idle
      · intro y op' offset' compared
        cases compared
        exact faultless
  · cases h
  · cases h

theorem pushConnective_sound {op : Connective} {offset : Nat} (sound : r.Sound options d)
    (h : r.pushConnective options op offset = .ok r') : r'.Sound options d := by
  obtain ⟨r₁, flushed, h⟩ := bind_eq_ok.mp h
  have sound₁ := flush_sound sound flushed
  split at h
  case h_4 c depth idle unnegated folded =>
    cases h
    have measured := sound₁.measured
    rw [folded] at measured
    exact ⟨sound₁.depth_eq, nofun, measured, sound₁.legal, sound₁.nested⟩
  all_goals cases h

theorem count_ok {offset : Nat} (h : r.count options offset = .ok r') :
    r.nesting + 1 ≤ options.maxDepth ∧ r' = { r with negations := r.negations ++ [offset] } := by
  unfold count at h
  split at h
  · cases h
  · next room =>
    cases h
    exact ⟨Nat.not_lt.mp room, rfl⟩

theorem pushNot_counted {offset : Nat} (h : r.pushNot options offset = .ok r') :
    ∃ r₁, (r₁ = r ∨ r.flush options = .ok r₁) ∧ r₁.nesting + 1 ≤ options.maxDepth ∧
      r' = { r₁ with negations := r₁.negations ++ [offset] } := by
  unfold pushNot at h
  split at h
  · obtain ⟨r₁, flushed, h⟩ := bind_eq_ok.mp h
    exact ⟨r₁, .inr flushed, count_ok h⟩
  · cases h
  · exact ⟨r, .inl rfl, count_ok h⟩

theorem pushNot_sound {offset : Nat} (sound : r.Sound options d)
    (h : r.pushNot options offset = .ok r') : r'.Sound options d := by
  obtain ⟨r₁, settled, room, rfl⟩ := pushNot_counted h
  have sound₁ : r₁.Sound options d := by
    rcases settled with rfl | flushed
    · exact sound
    · exact flush_sound sound flushed
  refine ⟨sound₁.depth_eq, sound₁.apart, sound₁.measured, sound₁.legal, ?_⟩
  have within : r₁.depth + r₁.negations.length + 1 ≤ options.maxDepth := room
  dsimp only
  rw [List.length_append, List.length_singleton]
  omega

theorem pushCondition_sound {c : Condition} {offset : Nat} (sound : r.Sound options d)
    (h : r.pushCondition options c offset = .ok r') : r'.Sound options d := by
  obtain ⟨r₁, flushed, h⟩ := bind_eq_ok.mp h
  have sound₁ := flush_sound sound flushed
  split at h
  · next idle => exact fold_sound sound₁ idle h
  · cases h
  · cases h

theorem push_sound {p : Push} (sound : r.Sound options d) (h : r.push options p = .ok r') :
    r'.Sound options d := by
  cases p with
  | value x offset => exact pushValue_sound sound h
  | comparator op offset => exact pushComparator_sound sound h
  | connective op offset => exact pushConnective_sound sound h
  | not offset => exact pushNot_sound sound h
  | condition c offset => exact pushCondition_sound sound h

theorem pushes_sound {ps : List Push} (sound : r.Sound options d)
    (h : ps.foldlM (push options) r = .ok r') : r'.Sound options d := by
  induction ps generalizing r with
  | nil =>
    cases h
    exact sound
  | cons p ps ih =>
    rw [List.foldlM_cons] at h
    obtain ⟨r₁, pushed, h⟩ := bind_eq_ok.mp h
    exact ih (push_sound sound pushed) h

/-- Whatever has been pushed on a region, one after the other, the invariant holds. It still holds
when the region ends and the value that is held back has been given its part, so that no left side
then stands beside a condition that nothing joins to it. -/
theorem sound_of_pushes (options : ParseOptions) (d : Nat) (ps : List Push) (r : Region)
    (h : ps.foldlM (push options) (start d) = .ok r) :
    r.Sound options d ∧ ∀ r', r.flush options = .ok r' → r'.Sound options d ∧
      ∀ x offset c depth, r'.progress = .left x offset → r'.pending ≠ .folded c depth := by
  have sound := pushes_sound (start_sound options d) h
  refine ⟨sound, fun r' flushed => ?_⟩
  have sound' := flush_sound sound flushed
  refine ⟨sound', fun x offset c depth left folded => ?_⟩
  have idle := sound'.apart c depth folded
  rw [left] at idle
  cases idle

/-- A comparison complete but for the value held back, behind a negation and a connective. -/
theorem sound_of_pushes_complete :
    let one : Operand := .number (.int32 1)
    let ps : List Push := [.value (.key "a") 0, .comparator .equal 2, .value one 4,
      .connective .and 6, .not 10, .value (.key "b") 14, .comparator .less 16, .value one 18]
    let r : Region := ⟨0, .joining (.comparison ⟨.key "a", .equal, one, none, rfl⟩) 1 .and 6,
      .compared (.key "b") .less 16, [10], some (one, 18)⟩
    ps.foldlM (push ⟨1, 3⟩) (start 0) = .ok r ∧ r.Sound ⟨1, 3⟩ 0 ∧
      ∃ r', r.flush ⟨1, 3⟩ = .ok r' ∧ r'.Sound ⟨1, 3⟩ 0 ∧
        ∀ x offset c depth, r'.progress = .left x offset → r'.pending ≠ .folded c depth := by
  intro one ps r
  have pushed : ps.foldlM (push ⟨1, 3⟩) (start 0) = .ok r := rfl
  obtain ⟨sound, ends⟩ := sound_of_pushes ⟨1, 3⟩ 0 ps r pushed
  have flushed : ∃ r', r.flush ⟨1, 3⟩ = .ok r' := ⟨_, rfl⟩
  obtain ⟨r', flushed⟩ := flushed
  exact ⟨pushed, sound, r', flushed, ends r' flushed⟩

end Region
end RecordFilter
