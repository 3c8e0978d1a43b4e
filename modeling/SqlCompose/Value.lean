import SqlCompose.Text.Ascii
import SqlCompose.Text.Blank
import SqlCompose.Number.DoubleText
import SqlCompose.Calendar.DateTime

/-!
# Scalar values

The values that statements bind and that rows hold. A boolean stays a boolean until a statement is
written; the dialect then decides how it reaches the database.
-/

namespace SqlCompose

/-- A scalar value. -/
inductive Value
  | null
  | bool (b : Bool)
  | int (n : Int64)
  | float (x : Double)
  | dateTime (t : DateTime)
  | date (d : Date)
  | text (s : String)
  deriving DecidableEq

namespace Value

instance : Inhabited Value := ⟨.null⟩

def isNull : Value → Bool
  | .null => true
  | _ => false

/-- The text of a value outside of statements. -/
def display : Value → String
  | .null => "NULL"
  | .bool b => if b then "true" else "false"
  | .int n => toString n.toInt
  | .float x => x.plain
  | .dateTime t => t.text
  | .date d => d.text
  | .text s => s

/-- The truth value that a word stands for; the empty word is false. -/
def truthOfWord? (word : String) : Option Bool :=
  if word ∈ ["1", "true", "t", "yes", "y", "on"] then some true
  else if word ∈ ["0", "false", "f", "no", "n", "off", ""] then some false
  else none

def asBool? : Value → Option Bool
  | .bool b => some b
  | .int n => some (n != 0)
  | .text s => truthOfWord? (Text.toLower s)
  | _ => none

/-- A value as an integer. A float that is a whole number beyond 64 bits gives the nearest integer
of 64 bits; a text is read without the blanks around it. -/
def asInt? : Value → Option Int64
  | .int n => some n
  | .bool b => some (if b then 1 else 0)
  | .float x => x.toInt?.map clampInt64
  | .text s => (Digits.integer? (Chars.trim s.toList)).bind int64?
  | _ => none

/-- A value as a float; a text is read without the blanks around it. -/
def asFloat? : Value → Option Double
  | .float x => some x
  | .int n => some (.ofInt n.toInt)
  | .text s => Double.ofText? (Text.trim s)
  | _ => none

def asText? : Value → Option String
  | .text s => some s
  | _ => none

end Value

end SqlCompose
