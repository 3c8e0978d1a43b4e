import SqlCompose.Calendar.Reader
import SqlCompose.Error
import SqlCompose.Json.Printer
import SqlCompose.Json.Reader
import SqlCompose.Value

/-!
# Values and Json

The value that a Json scalar means, and values written as Json. A date is written as a text; a text
that reads as a date or as a point in time is read back as one.
-/

namespace SqlCompose.Value

/-- The value of a number. An integer that needs all of its 64 bits for its size is a float. -/
def ofJsonNumber : Json.Number → Value
  | .integer i =>
    match int64? i with
    | some n => .int n
    | none => .float (.ofInt i)
  | .double x => .float x

/-- The value of a scalar; a text is never a date here. -/
def ofJson : Json → Outcome Value
  | .null => .ok .null
  | .bool b => .ok (.bool b)
  | .number n => .ok (ofJsonNumber n)
  | .string s => .ok (.text s)
  | json => .error (.malformedCondition ("expected a scalar value, got " ++ json.compact))

def listOfJson (items : List Json) : Outcome (List Value) := items.mapM ofJson

/-- The value of a text that may be the text of a date. -/
def ofDatedText (s : String) : Value :=
  match Calendar.dateTime? s with
  | some t => .dateTime t
  | none =>
    match Calendar.date? s with
    | some d => .date d
    | none => .text s

/-- Read a value that was written as Json. -/
def deserialize? (s : String) : Option Value :=
  match Json.parse? 127 s with
  | some .null => some .null
  | some (.bool b) => some (.bool b)
  | some (.number n) => some (ofJsonNumber n)
  | some (.string s) => some (ofDatedText s)
  | _ => none

def toJson : Value → Json
  | .null => .null
  | .bool b => .bool b
  | .int n => .number (.integer n.toInt)
  | .float x => .number (.double x)
  | .dateTime t => .string t.isoText
  | .date d => .string d.text
  | .text s => .string s

def serialize (v : Value) : String := v.toJson.compact

end SqlCompose.Value
