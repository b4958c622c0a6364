import RecordFilter.Evaluation

namespace RecordFilter

/-- What was done, with the label of the part of a plan that it was done to, if that has one. -/
inductive Event where
  | opened (label : Option String)
  | pulled (label : Option String)
  | tested (label : Option String)
  | mapped (label : Option String)
  | read (field : String)
  | closed (label : Option String)
  deriving DecidableEq

structure World (α : Type) where
  vectors : String → List α
  /-- Newest first. -/
  history : List Event

namespace World

variable {α : Type}

def empty : World α := ⟨fun _ => [], []⟩

def log (w : World α) (e : Event) : World α := { w with history := e :: w.history }

def logReads (w : World α) (fields : List String) : World α :=
  fields.foldl (fun w field => w.log (.read field)) w

def setVector (w : World α) (name : String) (items : List α) : World α :=
  { w with vectors := fun n => if n = name then items else w.vectors n }

end World
end RecordFilter
