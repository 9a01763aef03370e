/-!
# TreeSift.Filter.Registry

Finite maps that remember the order in which keys first came.  The view is `get?`: two registries
that answer alike can differ only in the order of their keys.
-/

namespace TreeSift

/-- A finite map from keys to entries. -/
structure Registry (κ α : Type) where
  /-- Keys and what they stand for; of equal keys the first counts. -/
  entries : List (κ × α)

namespace Registry

variable {κ α : Type} [DecidableEq κ]

/-- The map without keys. -/
def empty : Registry κ α := ⟨[]⟩

/-- What a key stands for in a list of entries. -/
def find? (k : κ) : List (κ × α) → Option α
  | [] => none
  | (k', a) :: es => if k' = k then some a else find? k es

/-- What a key stands for. -/
def get? (r : Registry κ α) (k : κ) : Option α := find? k r.entries

/-- The entries with one key set: in place if it is there, otherwise at the end. -/
def put (k : κ) (a : α) : List (κ × α) → List (κ × α)
  | [] => [(k, a)]
  | (k', a') :: es => if k' = k then (k, a) :: es else (k', a') :: put k a es

/-- The map with one key set. -/
def insert (r : Registry κ α) (k : κ) (a : α) : Registry κ α := ⟨put k a r.entries⟩

/-- The keys in order. -/
def keys (r : Registry κ α) : List κ := r.entries.map Prod.fst

theorem find?_put (k k' : κ) (a : α) (es : List (κ × α)) :
    find? k' (put k a es) = if k = k' then some a else find? k' es := by
  induction es with
  | nil => simp [put, find?]
  | cons e es ih =>
    obtain ⟨k'', b⟩ := e
    by_cases h : k'' = k
    · subst h
      by_cases h' : k'' = k' <;> simp [put, find?, h']
    · by_cases h' : k'' = k'
      · subst h'
        simp [put, find?, h, Ne.symm h]
      · simp [put, find?, h, h', ih]

@[simp]
theorem get?_empty (k : κ) : (empty : Registry κ α).get? k = none := rfl

/-- A key that was set stands for its new entry, every other for what it stood for before. -/
@[simp]
theorem get?_insert (r : Registry κ α) (k k' : κ) (a : α) :
    (r.insert k a).get? k' = if k = k' then some a else r.get? k' := find?_put k k' a r.entries

end Registry

end TreeSift
