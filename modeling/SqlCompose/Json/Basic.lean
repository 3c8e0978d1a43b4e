import SqlCompose.OrderedMap
import SqlCompose.Number.Double

/-!
# Json values

The members of an object are kept in the order of the document. Numbers are integers of 64 bits,
signed or unsigned, or doubles.
-/

namespace SqlCompose

/-- A number of a document. -/
inductive Json.Number
  | integer (i : Int)
  | double (x : Double)
  deriving DecidableEq

/-- A value of a document. -/
inductive Json
  | null
  | bool (b : Bool)
  | number (n : Json.Number)
  | string (s : String)
  | array (items : List Json)
  | object (members : List (String × Json))

namespace Json

instance : Inhabited Json := ⟨.null⟩

/-- The members of an object whose text may repeat a name: the last value wins, at the place of the
first. -/
def membersOfList (pairs : List (String × Json)) : List (String × Json) :=
  (OrderedMap.ofList pairs).entries

end Json

end SqlCompose
