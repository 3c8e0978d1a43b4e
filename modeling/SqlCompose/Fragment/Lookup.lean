import SqlCompose.Lookup.Basic
import SqlCompose.Query.Basic
import SqlCompose.Fragment.Like

/-!
# Lookups

The predicate of each lookup in each dialect. The field is text that stands as it is; it also names
the placeholders.
-/

namespace SqlCompose

namespace Fragment

/-- A lookup that was given an operand it cannot take. -/
def refuseLookup (lookup message : String) : Fragment :=
  [.refusal (.invalidLookupValue lookup message)]

/-- The predicate of a lookup that takes a single value. -/
def ofScalar (lookup : Lookup) (operand : Operand) (predicate : Value → Fragment) : Fragment :=
  match operand with
  | .value v => predicate v
  | _ => refuseLookup lookup.name "expected a single value"

/-- The predicate that a field equals a value; a null is looked for by a null check. -/
def exactly (field : String) (v : Value) : Fragment :=
  if v.isNull then [.text (field ++ " IS NULL")]
  else [.text (field ++ " = "), .slot field v]

/-- The predicate that a field equals a value in any letter case. -/
def exactlyIgnoringCase (field : String) (v : Value) : Fragment :=
  if v.isNull then [.text (field ++ " IS NULL")]
  else [.text ("LOWER(" ++ field ++ ") = LOWER("), .slot field v, .text ")"]

def likePattern (d : Dialect) (field : String) (ignoreCase : Bool) (pattern : Value) : Fragment :=
  match d, ignoreCase with
  | .pgsql, true => [.text (field ++ " ILIKE "), .slot field pattern]
  | .sqlite, true =>
    [.text ("LOWER(" ++ field ++ ") LIKE LOWER("), .slot field pattern, .text (")" ++ d.likeEscape)]
  | d, _ => [.text (field ++ " LIKE "), .slot field pattern, .text d.likeEscape]

/-- The predicate of a lookup that looks for a text. -/
def ofPattern (d : Dialect) (lookup : Lookup) (field : String) (pattern : Pattern)
    (ignoreCase : Bool) (operand : Operand) : Fragment :=
  ofScalar lookup operand fun v =>
    if v.isNull then refuseLookup lookup.name "NULL is not a pattern"
    else likePattern d field ignoreCase (.text (pattern.apply v.display))

def comparison (field : String) (op : CompareOp) (v : Value) : Fragment :=
  [.text (field ++ " " ++ op.token ++ " "), .slot field v]

def amongValues (field : String) (values : List Value) : Fragment :=
  if values.isEmpty then [.text "1=0"]
  else .text (field ++ " IN ") :: bracket (join ", " (values.map fun v => [.slot field v]))

def nullCheck (field : String) (v : Value) : Fragment :=
  match v.asBool? with
  | some true => [.text (field ++ " IS NULL")]
  | some false => [.text (field ++ " IS NOT NULL")]
  | none => refuseLookup "isnull" "expected a boolean"

def regex (d : Dialect) (field : String) (ignoreCase : Bool) (v : Value) : Fragment :=
  match d with
  | .pgsql => [.text (field ++ if ignoreCase then " ~* " else " ~ "), .slot field v]
  | .mssql =>
    [.refusal (.notSupported d.name (if ignoreCase then "iregex lookup" else "regex lookup"))]
  | _ => [.text (field ++ " REGEXP "), .slot field v]

/-! ### Parts of dates -/

/-- The expression that takes a part from a date. -/
def extraction (d : Dialect) (part : DatePart) (field : String) : String :=
  match d with
  | .sqlite =>
    let code := match part with
      | .year => "%Y"
      | .month => "%m"
      | .day => "%d"
      | .hour => "%H"
      | .minute => "%M"
      | .second => "%S"
      | .weekDay => "%w"
    "strftime('" ++ code ++ "', " ++ field ++ ")"
  | .pgsql => "EXTRACT(" ++ part.sqlName ++ " FROM " ++ field ++ "::timestamp)"
  | .mssql =>
    let name := match part with
      | .year => "year"
      | .month => "month"
      | .day => "day"
      | .hour => "hour"
      | .minute => "minute"
      | .second => "second"
      | .weekDay => "dw"
    "DATEPART(" ++ name ++ ", " ++ field ++ ")"
  | .mysql | .cubrid =>
    if part = .weekDay then "DAYOFWEEK(" ++ field ++ ")"
    else "EXTRACT(" ++ part.sqlName ++ " FROM " ++ field ++ ")"

/-- What the extraction yields for a number: some dialects count the Sunday as zero, and one yields
numerals of a fixed width. -/
def extractedValue (d : Dialect) (part : DatePart) (n : Int64) : Value :=
  match d, part with
  | .sqlite, .year => .text (Digits.paddedInt 4 n.toInt)
  | .sqlite, .weekDay => .text (toString (n - 1).toInt)
  | .sqlite, _ => .text (Digits.paddedInt 2 n.toInt)
  | .pgsql, .weekDay => .int (n - 1)
  | _, _ => .int n

/-- The predicate that a part of a date is a number. -/
def datePart (d : Dialect) (part : DatePart) (field : String) (v : Value) : Fragment :=
  let lookup := if part = .weekDay then "week_day" else "date part"
  match v.asInt? with
  | none => refuseLookup lookup ("expected an integer, got " ++ v.display)
  | some n =>
    if part = .weekDay ∧ ¬(1 ≤ n ∧ n ≤ 7) then
      refuseLookup lookup (toString n.toInt ++ " is outside 1 (Sunday) ..= 7 (Saturday)")
    else [.text (extraction d part field ++ " = "), .slot field (extractedValue d part n)]

end Fragment

/-- The predicate of a lookup; a query is not among the operands it takes. -/
def Lookup.fragment (d : Dialect) (lookup : Lookup) (field : String) (operand : Operand) :
    Fragment :=
  match lookup with
  | .exact => .ofScalar lookup operand (Fragment.exactly field)
  | .iexact => .ofScalar lookup operand (Fragment.exactlyIgnoringCase field)
  | .contains => .ofPattern d lookup field .contains false operand
  | .icontains => .ofPattern d lookup field .contains true operand
  | .startsWith => .ofPattern d lookup field .startsWith false operand
  | .istartsWith => .ofPattern d lookup field .startsWith true operand
  | .endsWith => .ofPattern d lookup field .endsWith false operand
  | .iendsWith => .ofPattern d lookup field .endsWith true operand
  | .gt => .ofScalar lookup operand (Fragment.comparison field .gt)
  | .gte => .ofScalar lookup operand (Fragment.comparison field .gte)
  | .lt => .ofScalar lookup operand (Fragment.comparison field .lt)
  | .lte => .ofScalar lookup operand (Fragment.comparison field .lte)
  | .range =>
    match operand with
    | .list [low, high] =>
      [.text (field ++ " BETWEEN "), .slot field low, .text " AND ", .slot field high]
    | _ => Fragment.refuseLookup lookup.name "expected a list of exactly two bounds"
  | .within =>
    match operand with
    | .list values => Fragment.amongValues field values
    | .value v => Fragment.amongValues field [v]
    | _ => Fragment.refuseLookup lookup.name "expected a list of values"
  | .isNull => .ofScalar lookup operand (Fragment.nullCheck field)
  | .regex => .ofScalar lookup operand (Fragment.regex d field false)
  | .iregex => .ofScalar lookup operand (Fragment.regex d field true)
  | .part p => .ofScalar lookup operand (Fragment.datePart d p field)
  | .search =>
    [.refusal (.notImplemented ("search lookup on " ++ field ++ " (" ++ d.name ++ " dialect)"))]

end SqlCompose
