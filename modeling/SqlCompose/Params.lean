import SqlCompose.OrderedMap
import SqlCompose.Value

/-!
# Named parameters

A parameter map gives values to placeholders such as `:name`, in the order in which they were set.
Every name carries the colon: a name given without it is the same name.
-/

namespace SqlCompose

/-- The values of named placeholders. -/
structure Params where
  map : OrderedMap Value
  deriving DecidableEq

namespace Params

/-- A name with its colon. -/
def normalize (name : String) : String :=
  if name.toList.head? = some ':' then name else ":" ++ name

def empty : Params := ⟨.empty⟩

instance : EmptyCollection Params := ⟨empty⟩

instance : Inhabited Params := ⟨empty⟩

def toList (p : Params) : List (String × Value) := p.map.entries

def names (p : Params) : List String := p.map.keys

def size (p : Params) : Nat := p.map.size

def isEmpty (p : Params) : Bool := p.map.isEmpty

def get? (p : Params) (name : String) : Option Value := p.map.get? (normalize name)

def contains (p : Params) (name : String) : Bool := p.map.contains (normalize name)

def insert (p : Params) (name : String) (value : Value) : Params :=
  ⟨p.map.insert (normalize name) value⟩

/-- Set the names of a list one after the other. -/
def insertMany (p : Params) (pairs : List (String × Value)) : Params :=
  pairs.foldl (fun p (name, value) => p.insert name value) p

def ofList (pairs : List (String × Value)) : Params := empty.insertMany pairs

/-- Add the parameters of another map; on a name of both, the other's value counts. -/
def extend (p q : Params) : Params := ⟨p.map.insertMany q.map.entries⟩

end Params

end SqlCompose
