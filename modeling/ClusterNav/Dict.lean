/-!
# Ordered dictionaries

Values under text keys, kept in the order of the keys (by code points).  `get?` is the view; it says
what `insert` and `erase` do.
-/

namespace ClusterNav

/-- Values under text keys, in key order. -/
structure Dict (α : Type) where
  entries : List (String × α) := []
deriving Repr, DecidableEq

namespace Dict

variable {α β : Type}

def empty : Dict α := ⟨[]⟩

instance : Inhabited (Dict α) := ⟨empty⟩

/-- Puts a value into its place, over an old value of the same key. -/
def insertInto (key : String) (value : α) : List (String × α) → List (String × α)
  | [] => [(key, value)]
  | (k, v) :: rest =>
    if k = key then (key, value) :: rest
    else if key < k then (key, value) :: (k, v) :: rest
    else (k, v) :: insertInto key value rest

def insert (d : Dict α) (key : String) (value : α) : Dict α :=
  ⟨insertInto key value d.entries⟩

def erase (d : Dict α) (key : String) : Dict α :=
  ⟨d.entries.filter fun e => e.1 ≠ key⟩

def get? (d : Dict α) (key : String) : Option α :=
  (d.entries.find? fun e => e.1 = key).map (·.2)

def contains (d : Dict α) (key : String) : Bool :=
  (d.get? key).isSome

/-- The keys, in order. -/
def keys (d : Dict α) : List String :=
  d.entries.map (·.1)

def isEmpty (d : Dict α) : Bool :=
  d.entries.isEmpty

/-- The dictionary of a list of entries; of one key the last entry counts. -/
def ofList (entries : List (String × α)) : Dict α :=
  entries.foldl (fun d e => d.insert e.1 e.2) empty

theorem find?_insertInto (key j : String) (value : α) (l : List (String × α)) :
    ((insertInto key value l).find? fun e => e.1 = j) =
      if key = j then some (key, value) else l.find? fun e => e.1 = j := by
  induction l with
  | nil => by_cases h : key = j <;> simp [insertInto, h]
  | cons e rest ih =>
    obtain ⟨k, v⟩ := e
    simp only [insertInto]
    split
    · rename_i hk
      subst hk
      by_cases h : k = j <;> simp [h]
    · split
      · by_cases h : key = j <;> simp [h]
      · rename_i hk _
        by_cases hj : k = j
        · subst hj
          have : key ≠ k := fun e => hk e.symm
          simp [this]
        · simp [hj, ih]

/-- After an insertion the key has the new value and every other key what it had. -/
theorem get?_insert (d : Dict α) (key j : String) (value : α) :
    (d.insert key value).get? j = if key = j then some value else d.get? j := by
  simp only [get?, insert, find?_insertInto]
  split <;> simp

/-- After a removal the key has no value and every other key what it had. -/
theorem get?_erase (d : Dict α) (key j : String) :
    (d.erase key).get? j = if key = j then none else d.get? j := by
  simp only [get?, erase, List.find?_filter]
  by_cases h : key = j
  · subst h
    simp only [if_true, Option.map_eq_none_iff, List.find?_eq_none]
    intro e _
    simp
  · simp only [h, if_false]
    congr 2
    funext e
    by_cases he : e.1 = j
    · subst he
      simp [Ne.symm h]
    · simp [he]

end Dict
end ClusterNav
