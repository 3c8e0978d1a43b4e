import SqlCompose.Error
import SqlCompose.Text.Split

/-!
# Lookups

A lookup is a named predicate on one field, such as `icontains` or `year`. A key names a field and,
after two underscores, a lookup; a key without two underscores asks for equality.
-/

namespace SqlCompose

/-- A part of a date or time. Week days count from one, the Sunday. -/
inductive DatePart
  | year
  | month
  | day
  | hour
  | minute
  | second
  | weekDay
  deriving DecidableEq

def DatePart.sqlName : DatePart → String
  | .year => "YEAR"
  | .month => "MONTH"
  | .day => "DAY"
  | .hour => "HOUR"
  | .minute => "MINUTE"
  | .second => "SECOND"
  | .weekDay => "DOW"

/-- A named predicate on a field. -/
inductive Lookup
  | exact
  | iexact
  | contains
  | icontains
  | startsWith
  | istartsWith
  | endsWith
  | iendsWith
  | gt
  | gte
  | lt
  | lte
  | range
  | within
  | isNull
  | regex
  | iregex
  | part (p : DatePart)
  | search
  deriving DecidableEq

namespace Lookup

def name : Lookup → String
  | .exact => "exact"
  | .iexact => "iexact"
  | .contains => "contains"
  | .icontains => "icontains"
  | .startsWith => "startswith"
  | .istartsWith => "istartswith"
  | .endsWith => "endswith"
  | .iendsWith => "iendswith"
  | .gt => "gt"
  | .gte => "gte"
  | .lt => "lt"
  | .lte => "lte"
  | .range => "range"
  | .within => "in"
  | .isNull => "isnull"
  | .regex => "regex"
  | .iregex => "iregex"
  | .part .year => "year"
  | .part .month => "month"
  | .part .day => "day"
  | .part .hour => "hour"
  | .part .minute => "minute"
  | .part .second => "second"
  | .part .weekDay => "week_day"
  | .search => "search"

def all : List Lookup :=
  [.exact, .iexact, .contains, .icontains, .startsWith, .istartsWith, .endsWith, .iendsWith, .gt,
    .gte, .lt, .lte, .range, .within, .isNull, .regex, .iregex, .part .year, .part .month,
    .part .day, .part .hour, .part .minute, .part .second, .part .weekDay, .search]

def ofName? (name : String) : Option Lookup := all.find? (·.name == name)

/-- The part of a date that a lookup asks for. -/
def datePart? : Lookup → Option DatePart
  | .part p => some p
  | _ => none

/-- The field and the lookup of a key; the last two underscores of the key divide them. -/
def splitKey (key : String) : Outcome (String × Lookup) :=
  match Text.splitLast "__" key with
  | none => .ok (key, .exact)
  | some (field, name) =>
    if field.isEmpty then
      .error (.malformedCondition ("lookup key '" ++ key ++ "' has no field"))
    else match ofName? name with
      | some lookup => .ok (field, lookup)
      | none => .error (.malformedCondition ("unknown lookup '" ++ name ++ "'"))

end Lookup

end SqlCompose
