import RecordFilter.Cursor.World

namespace RecordFilter

/-- What a traversal delivers, put together from sources by filtering, mapping and concatenation. -/
inductive Plan (α : Type) where
  | empty
  /-- The items of a list, one pull each. Labels name the parts of a plan in the history. -/
  | sequence (label : Option String) (items : List α)
  /-- The items that a shared vector holds when they are asked for. -/
  | shared (name : String)
  | filter (label : Option String) (test : α → Outcome) (inner : Plan α)
  | map (label : Option String) (f : α → α) (inner : Plan α)
  | stop
  | link (head tail : Plan α)

namespace Plan

variable {α : Type}

def concat (members : List (Plan α)) : Plan α := members.foldr link stop

/-- Adds a member at the end of a concatenation; other plans have no place for one. -/
def push : Plan α → Plan α → Plan α
  | stop, member => link member stop
  | link head tail, member => link head (tail.push member)
  | p, _ => p

end Plan
end RecordFilter
