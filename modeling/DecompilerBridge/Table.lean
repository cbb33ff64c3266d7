/-!
# Tables

Tables: texts mapped to values, kept in the order of the keys. Texts are ordered character by
character, which is also the byte order of their UTF-8 forms.
-/

set_option autoImplicit false

namespace DecompilerBridge

/-- A mapping from texts, listed in key order. -/
abbrev Table (α : Type) := List (String × α)

namespace Table

variable {α : Type}

/-- The value of a key. -/
def find? (key : String) : Table α → Option α
  | [] => none
  | (k, v) :: rest => if k = key then some v else find? key rest

/-- Give a key a value: an existing entry is replaced, a new one goes before the first greater key.
-/
def insert (key : String) (value : α) : Table α → Table α
  | [] => [(key, value)]
  | (k, v) :: rest =>
    if k = key then (key, value) :: rest
    else if key < k then (key, value) :: (k, v) :: rest
    else (k, v) :: insert key value rest

/-- The table of a list of pairs, of which the last with a key counts. -/
def ofPairs (pairs : List (String × α)) : Table α :=
  pairs.foldl (fun t p => insert p.1 p.2 t) []

/-- An empty table holds nothing. -/
@[simp] theorem find?_nil (key : String) : find? key ([] : Table α) = none := rfl

/-- The key that is written has its new value. -/
@[simp] theorem find?_insert_self (key : String) (value : α) (t : Table α) :
    (insert key value t).find? key = some value := by
  induction t with
  | nil => simp [insert, find?]
  | cons p rest ih =>
    obtain ⟨k, v⟩ := p
    by_cases h : k = key
    · simp [insert, find?, h]
    · by_cases hlt : key < k
      · simp [insert, find?, h, hlt]
      · simp [insert, find?, h, hlt, ih]

/-- Every other key is as it was. -/
theorem find?_insert_of_ne {key other : String} (h : other ≠ key) (value : α) (t : Table α) :
    (insert key value t).find? other = t.find? other := by
  induction t with
  | nil => simp [insert, find?, h.symm]
  | cons p rest ih =>
    obtain ⟨k, v⟩ := p
    by_cases hk : k = key
    · subst hk
      simp [insert, find?, h.symm]
    · by_cases hlt : key < k
      · simp [insert, find?, hk, hlt, h.symm]
      · simp [insert, find?, hk, hlt, ih]

/-- Giving a key a value changes what is under that key alone. -/
theorem find?_insert (key : String) (value : α) (t : Table α) (other : String) :
    (insert key value t).find? other = if other = key then some value else t.find? other := by
  split
  · next same => rw [same, find?_insert_self]
  · next different => rw [find?_insert_of_ne different]

end Table

end DecompilerBridge
