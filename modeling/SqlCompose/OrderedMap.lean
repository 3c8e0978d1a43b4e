/-!
# Ordered maps

A map from names to values that remembers the order in which its names came. Setting a known name
replaces its value and leaves it where it stands; a new name goes to the end.
-/

namespace SqlCompose

/-- Set a name in a list of entries: in place where it stands, else at the end. -/
def setEntry {β : Type} (name : String) (value : β) : List (String × β) → List (String × β)
  | [] => [(name, value)]
  | (other, old) :: rest =>
    if other = name then (other, value) :: rest else (other, old) :: setEntry name value rest

/-- Setting a name appends it to the names, unless it is among them. -/
theorem keys_setEntry {β : Type} (name : String) (value : β) (entries : List (String × β)) :
    (setEntry name value entries).map Prod.fst =
      if name ∈ entries.map Prod.fst then entries.map Prod.fst
      else entries.map Prod.fst ++ [name] := by
  induction entries with
  | nil => simp [setEntry]
  | cons entry rest ih =>
    obtain ⟨other, old⟩ := entry
    by_cases h : other = name
    · simp [setEntry, h]
    · have h' : ¬name = other := fun e => h e.symm
      by_cases hr : name ∈ rest.map Prod.fst
      · simp [setEntry, h, h', ih, hr]
      · simp [setEntry, h, h', ih, hr]

/-- An insertion-ordered map from names to values. -/
structure OrderedMap (β : Type) where
  entries : List (String × β)
  nodup : (entries.map Prod.fst).Nodup
  deriving DecidableEq

namespace OrderedMap

variable {β : Type}

def empty : OrderedMap β := ⟨[], by simp⟩

instance : EmptyCollection (OrderedMap β) := ⟨empty⟩

instance : Inhabited (OrderedMap β) := ⟨empty⟩

def keys (m : OrderedMap β) : List String := m.entries.map Prod.fst

def values (m : OrderedMap β) : List β := m.entries.map Prod.snd

def size (m : OrderedMap β) : Nat := m.entries.length

def isEmpty (m : OrderedMap β) : Bool := m.entries.isEmpty

def get? (m : OrderedMap β) (name : String) : Option β := m.entries.lookup name

def contains (m : OrderedMap β) (name : String) : Bool := m.keys.contains name

/-- Set the value of a name. -/
def insert (m : OrderedMap β) (name : String) (value : β) : OrderedMap β where
  entries := setEntry name value m.entries
  nodup := by
    rw [keys_setEntry]
    split
    · exact m.nodup
    · rename_i h
      rw [List.nodup_append]
      refine ⟨m.nodup, by simp, ?_⟩
      intro a ha b hb e
      simp only [List.mem_singleton] at hb
      exact h (hb ▸ e ▸ ha)

/-- Set the names of a list one after the other. -/
def insertMany (m : OrderedMap β) (pairs : List (String × β)) : OrderedMap β :=
  pairs.foldl (fun m (name, value) => m.insert name value) m

/-- The map of a list of pairs: of a repeated name the last value, at the first place. -/
def ofList (pairs : List (String × β)) : OrderedMap β := empty.insertMany pairs

@[simp] theorem entries_empty : (empty : OrderedMap β).entries = [] := rfl

@[simp] theorem entries_insert (m : OrderedMap β) (name : String) (value : β) :
    (m.insert name value).entries = setEntry name value m.entries := rfl

end OrderedMap

end SqlCompose
