namespace RecordFilter.Fields

variable {α : Type}

def get? (name : String) : List (String × α) → Option α
  | [] => none
  | (k, a) :: rest => if k = name then some a else get? name rest

def insert (name : String) (a : α) : List (String × α) → List (String × α)
  | [] => [(name, a)]
  | (k, b) :: rest =>
    if name < k then (name, a) :: (k, b) :: rest
    else if name = k then (name, a) :: rest
    else (k, b) :: insert name a rest

/-- Of several fields of one name the last counts. -/
def ofList (fields : List (String × α)) : List (String × α) :=
  fields.foldl (fun fs f => insert f.1 f.2 fs) []

end RecordFilter.Fields
