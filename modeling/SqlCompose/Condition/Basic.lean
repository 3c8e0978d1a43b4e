import SqlCompose.Text.Blank
import SqlCompose.Query.Basic

/-!
# Conditions

How conditions are combined and made. A condition is empty if it says nothing; combining with an
empty condition changes nothing.
-/

namespace SqlCompose

namespace Condition

mutual
def isEmpty : Condition → Bool
  | .hash pairs => pairs.isEmpty
  | .and items => areEmpty items
  | .or items => areEmpty items
  | .not item => isEmpty item
  | .raw sql _ => Text.isBlank sql
  | .expr e => Text.isBlank e.sql
  | _ => false

def areEmpty : List Condition → Bool
  | [] => true
  | item :: items => isEmpty item && areEmpty items
end

/-- Both conditions; a conjunction on the left takes the other in. -/
def andWith (c other : Condition) : Condition :=
  if c.isEmpty then other
  else if other.isEmpty then c
  else match c with
    | .and items => .and (items ++ [other])
    | c => .and [c, other]

/-- One of two conditions; a disjunction on the left takes the other in. -/
def orWith (c other : Condition) : Condition :=
  if c.isEmpty then other
  else if other.isEmpty then c
  else match c with
    | .or items => .or (items ++ [other])
    | c => .or [c, other]

def ofSql (sql : String) : Condition := .raw sql ∅

/-- A comparison given by its token. -/
def compareBy (token column : String) (operand : Operand) : Outcome Condition :=
  match CompareOp.ofToken? token with
  | some op => .ok (.compare column op operand)
  | none => .error (.malformedCondition ("unknown comparison operator '" ++ token ++ "'"))

def inList (column : String) (values : List Value) : Condition :=
  .within [column] (.list values) false

def notIn (column : String) (values : List Value) : Condition :=
  .within [column] (.list values) true

def inQuery (column : String) (q : Query) : Condition := .within [column] (.query q) false

def notInQuery (column : String) (q : Query) : Condition := .within [column] (.query q) true

/-- A tuple of columns that is one of some rows. -/
def inRows (columns : List String) (rows : List (List Value)) : Condition :=
  .within columns (.rows rows) false

/-- A column that is like some values, by an operator of the family. -/
def likeBy (op : LikeOp) (column : String) (values : List Value) : Condition :=
  .like op column values false

/-- Take the values of a LIKE condition as patterns; other conditions stay as they are. -/
def withRawPattern : Condition → Condition
  | .like op column values _ => .like op column values true
  | c => c

/-- A lookup given by its key. -/
def ofLookupKey (key : String) (operand : Operand) : Outcome Condition :=
  (Lookup.splitKey key).map fun (field, kind) => .lookup field kind operand

end Condition

end SqlCompose
