/-! Sets of names and tables over names, kept in the order of code points. -/

namespace ClassBatch.Names

def insert (name : String) : List String → List String
  | [] => [name]
  | other :: rest =>
    if name < other then name :: other :: rest
    else if name = other then other :: rest
    else other :: insert name rest

def sorted (names : List String) : List String :=
  names.foldl (fun set name => insert name set) []

def put {α : Type} (name : String) (value : α) : List (String × α) → List (String × α)
  | [] => [(name, value)]
  | (other, kept) :: rest =>
    if name < other then (name, value) :: (other, kept) :: rest
    else if name = other then (name, value) :: rest
    else (other, kept) :: put name value rest

def keys {α : Type} (table : List (String × α)) : List String :=
  table.map Prod.fst

theorem mem_insert {x name : String} {set : List String} :
    x ∈ insert name set ↔ x = name ∨ x ∈ set := by
  induction set with
  | nil => simp [insert]
  | cons other rest ih =>
    simp only [insert]
    split
    · simp
    · split
      · rename_i h; subst h; simp
      · simp only [List.mem_cons, ih]
        exact or_left_comm

theorem keys_put {α : Type} (name : String) (value : α) (table : List (String × α)) :
    keys (put name value table) = insert name (keys table) := by
  induction table with
  | nil => rfl
  | cons entry rest ih =>
    obtain ⟨other, kept⟩ := entry
    simp only [put, keys, List.map_cons, insert]
    split
    · rfl
    · split
      · rename_i h; simp [h]
      · simp only [List.map_cons, List.cons.injEq, true_and]
        exact ih

end ClassBatch.Names
