import RecordFilter.Proofs.Cursor.Closing

namespace RecordFilter

variable {α : Type}

/-- A tree of cursors that a guard holds, in its world. -/
structure Guarded (α : Type) where
  plan : Plan α
  cursor : Cursor plan
  world : World α

/-- What can be done with any cursor. -/
inductive Use (α : Type) where
  | call (call : Call α)
  | remove
  | close

inductive Step (α : Type) where
  | use (u : Use α)
  /-- A member is pushed at whatever place it has reached. -/
  | push {member : Plan α} (c : Cursor member)

/-- The open hooks that a step brings to a tree; only concatenations take members. -/
def Step.hooks (takesMembers : Bool) : Step α → List String
  | use _ => []
  | push c => if takesMembers then c.openHooks else []

namespace Guarded

def use (g : Guarded α) : Use α → Guarded α
  | .call call =>
    let (_, c, w) := g.cursor.answer g.world call
    ⟨g.plan, c, w⟩
  | .remove =>
    let (_, c, w) := g.cursor.remove g.world
    ⟨g.plan, c, w⟩
  | .close =>
    let (c, w) := g.cursor.close g.world
    ⟨g.plan, c, w⟩

def step (g : Guarded α) : Step α → Guarded α
  | .use u => g.use u
  | .push c => ⟨g.plan.push _, g.cursor.push c, g.world⟩

def run (g : Guarded α) (steps : List (Step α)) : Guarded α := steps.foldl step g

def drop (g : Guarded α) : World α := (g.use .close).world

/-- The hooks that have run, and those that are still to run. -/
def hooks (g : Guarded α) : List String := g.cursor.openHooks ++ g.world.closings

end Guarded

theorem Plan.takesMembers_push (p member : Plan α) :
    (p.push member).takesMembers = p.takesMembers := by
  induction p with
  | link head tail _ ih => exact ih
  | _ => rfl

theorem Cursor.openHooks_push {p member : Plan α} (c : Cursor p) (new : Cursor member) :
    (c.push new).openHooks =
      c.openHooks ++ (if p.takesMembers then new.openHooks else []) := by
  induction c with
  | stop => exact List.append_nil _
  | link first passed others last _ ih =>
    have parts : ((Cursor.link first passed others last).push new).openHooks =
        first.openHooks ++ (others.push new).openHooks := rfl
    rw [parts, ih, openHooks, List.append_assoc]
    rfl
  | _ => exact (List.append_nil _).symm

namespace Guarded

theorem use_hooks (g : Guarded α) (u : Use α) : (g.use u).hooks.Perm g.hooks := by
  obtain ⟨p, c, w⟩ := g
  cases u with
  | call call =>
    have kept : (c.answer w call).2.1.openHooks = c.openHooks ∧
        (c.answer w call).2.2.closings = w.closings := by
      cases call with
      | hasNext => exact (Cursor.quiet p).asks c w
      | next => exact (Cursor.quiet p).takes c w
      | traverse go => exact Cursor.keeps_traverseFrom (recordWhile go) (c.remaining w + 1) [] c w
    simp only [use, hooks, kept.1, kept.2]
    exact .refl _
  | remove =>
    obtain ⟨same, quiet⟩ := Cursor.keeps_remove c w
    simp only [use, hooks, same, quiet]
    exact .refl _
  | close =>
    have none := Cursor.openHooks_closed (Cursor.closed_close c w)
    simp only [use, hooks, none]
    exact Cursor.closings_close c w

theorem step_hooks (g : Guarded α) (s : Step α) :
    (g.step s).hooks.Perm (s.hooks g.plan.takesMembers ++ g.hooks) := by
  cases s with
  | use u => exact g.use_hooks u
  | push c =>
    simp only [step, hooks, Step.hooks, Cursor.openHooks_push, List.append_assoc]
    exact List.perm_append_comm_assoc ..

theorem step_takesMembers (g : Guarded α) (s : Step α) :
    (g.step s).plan.takesMembers = g.plan.takesMembers := by
  cases s with
  | use u => cases u <;> rfl
  | push c => exact g.plan.takesMembers_push _

theorem run_hooks (g : Guarded α) (steps : List (Step α)) :
    (g.run steps).hooks.Perm (steps.flatMap (·.hooks g.plan.takesMembers) ++ g.hooks) := by
  induction steps generalizing g with
  | nil => exact .refl _
  | cons s steps ih =>
    have later := ih (g.step s)
    rw [step_takesMembers] at later
    have moved := (g.step_hooks s).append_left (steps.flatMap (·.hooks g.plan.takesMembers))
    rw [List.flatMap_cons, List.append_assoc]
    exact (later.trans moved).trans (List.perm_append_comm_assoc ..)

theorem run_uses_closed (g : Guarded α) (closed : g.cursor.Closed) (uses : List (Use α)) :
    (g.run (uses.map .use)).cursor.Closed ∧ (g.run (uses.map .use)).world = g.world := by
  induction uses generalizing g with
  | nil => exact ⟨closed, rfl⟩
  | cons u uses ih =>
    have kept : (g.use u).cursor.Closed ∧ (g.use u).world = g.world := by
      obtain ⟨p, c, w⟩ := g
      cases u with
      | call call =>
        obtain ⟨a, c', answered, -, closed'⟩ := Cursor.answer_closed w call closed
        simp only [use, answered]
        exact ⟨closed', trivial⟩
      | remove =>
        obtain ⟨e, c', removed, closed'⟩ := Cursor.remove_closed w closed
        simp only [use, removed]
        exact ⟨closed', trivial⟩
      | close => exact ⟨Cursor.closed_close c w, Cursor.close_closed w closed⟩
    obtain ⟨closed', same⟩ := ih (g.use u) kept.1
    exact ⟨closed', same.trans kept.2⟩

/-- Once the guard is dropped, the hooks that ran meanwhile are those that were open at first and
those that pushed members brought along, each once; in a tree that starts, all hooks are open. And
after a close nothing happens any more, whatever is done short of a push: nothing is pulled, tested,
mapped or removed. -/
theorem hooks_run_once (g : Guarded α) (steps : List (Step α)) :
    (g.run steps).drop.closings.Perm
        (steps.flatMap (·.hooks g.plan.takesMembers) ++ g.cursor.openHooks ++ g.world.closings) ∧
      (∀ p : Plan α, p.start.openHooks = p.hooks) ∧
      ∀ uses : List (Use α),
        let closed := (g.run steps).use .close
        let later := closed.run (uses.map .use)
        later.world = closed.world ∧ (later.cursor.hasNext later.world).1 = false ∧
          (later.cursor.next later.world).1 = .error .exhausted := by
  refine ⟨?_, Cursor.openHooks_start, fun uses => ?_⟩
  · have dropped := Cursor.closings_close (g.run steps).cursor (g.run steps).world
    rw [List.append_assoc]
    exact dropped.trans (g.run_hooks steps)
  · have closed := Cursor.closed_close (g.run steps).cursor (g.run steps).world
    obtain ⟨closed', same⟩ := ((g.run steps).use .close).run_uses_closed closed uses
    obtain ⟨_, asked, -⟩ := Cursor.rests _ _ (((g.run steps).use .close).run (uses.map .use)).world
      closed'
    obtain ⟨_, took, -⟩ := Cursor.next_closed
      (((g.run steps).use .close).run (uses.map .use)).world closed'
    exact ⟨same, congrArg Prod.fst asked, congrArg Prod.fst took⟩

end Guarded
end RecordFilter
