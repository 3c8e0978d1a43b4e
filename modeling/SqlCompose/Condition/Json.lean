import SqlCompose.Condition.Basic
import SqlCompose.Text.Ascii
import SqlCompose.Value.Json

/-!
# Conditions written as Json

A text is verbatim, and an object compares each of its members with a column. An array starts with
an operator, written in any letter case with or without blanks around it, and goes on with the
operands that the operator takes; the empty array says nothing.
-/

namespace SqlCompose.Condition

/-- An operator has another number of operands than it takes. -/
def wrongArity (op : String) (expected actual : Nat) : QueryError :=
  .malformedCondition ("operator '" ++ op ++ "' requires " ++ toString expected ++
    " operand(s), got " ++ toString actual)

def columnOfJson (op : String) : Json → Outcome String
  | .string s =>
    if s.isEmpty then
      .error (.malformedCondition
        ("operator '" ++ op ++ "' expects a column name, got " ++ (Json.string s).compact))
    else .ok s
  | json =>
    .error (.malformedCondition
      ("operator '" ++ op ++ "' expects a column name, got " ++ json.compact))

/-- Read a scalar or an array of scalars as a list of values. -/
def valuesOfJson : Json → Outcome (List Value)
  | .array items => Value.listOfJson items
  | json => (Value.ofJson json).map ([·])

/-- Read what a column of an object is compared with. -/
def operandOfJson : Json → Outcome Operand
  | .array items => (Value.listOfJson items).map .list
  | json => (Value.ofJson json).map .value

def hashOfJson (members : List (String × Json)) : Outcome Condition :=
  (members.mapM fun member => (operandOfJson member.2).map (member.1, ·)).map .hash

def rowOfJson (op : String) : Json → Outcome (List Value)
  | .array items => Value.listOfJson items
  | json =>
    .error (.malformedCondition
      ("operator '" ++ op ++ "' expects each row to be a list, got " ++ json.compact))

def betweenOfJson (op : String) (negated : Bool) : List Json → Outcome Condition
  | [column, low, high] => do
    let column ← columnOfJson op column
    let low ← Value.ofJson low
    let high ← Value.ofJson high
    return .between column low high negated
  | operands => .error (wrongArity op 3 operands.length)

/-- Read a membership: of one column in values, or of several columns in rows. -/
def withinOfJson (op : String) (negated : Bool) : List Json → Outcome Condition
  | [.array columns, rows] => do
    let columns ← columns.mapM (columnOfJson op)
    match rows with
    | .array rows =>
      let rows ← rows.mapM (rowOfJson op)
      return .within columns (.rows rows) negated
    | _ =>
      .error (.malformedCondition
        ("operator '" ++ op ++ "' with multiple columns requires a list of rows"))
  | [column, values] => do
    let values ← valuesOfJson values
    let column ← columnOfJson op column
    return .within [column] (.list values) negated
  | operands => .error (wrongArity op 2 operands.length)

/-- Read the flag that flips the negation of an operator. -/
def flagOfJson (op : String) : Json → Outcome Bool
  | .bool b => .ok b
  | json =>
    .error (.malformedCondition
      ("operator '" ++ op ++ "' negation flag must be a boolean, got " ++ json.compact))

def likeOfJson (op : String) (family : LikeOp) : List Json → Outcome Condition
  | [column, values] => do
    let values ← valuesOfJson values
    let column ← columnOfJson op column
    return likeBy family column values
  | [column, values, flag] => do
    let values ← valuesOfJson values
    let flipped ← flagOfJson op flag
    let column ← columnOfJson op column
    return likeBy (if flipped then family.negate else family) column values
  | operands =>
    .error (.malformedCondition ("operator '" ++ op ++ "' requires 2 or 3 operands, got " ++
      toString operands.length))

def comparisonOfJson (op : String) (token : CompareOp) : List Json → Outcome Condition
  | [column, v] => do
    let column ← columnOfJson op column
    let v ← Value.ofJson v
    return .compare column token (.value v)
  | operands => .error (wrongArity op 2 operands.length)

/-- Read a condition without conditions inside. -/
def leafOfJson (op : String) (operands : List Json) : Outcome Condition :=
  match op with
  | "between" => betweenOfJson op false operands
  | "not between" => betweenOfJson op true operands
  | "in" => withinOfJson op false operands
  | "not in" => withinOfJson op true operands
  | "exists" | "not exists" =>
    .error (.malformedCondition ("operator '" ++ op ++ "' requires a sub-query operand"))
  | _ =>
    match LikeOp.ofKeyword? op, CompareOp.ofToken? op with
    | some family, _ => likeOfJson op family operands
    | none, some token => comparisonOfJson op token operands
    | none, none => .error (.malformedCondition ("unknown operator '" ++ op ++ "'"))

/-- An operator as it is looked up. -/
def normalizeOperator (op : String) : String := Text.toLower (Text.trim op)

mutual
def ofJson : Json → Outcome Condition
  | .object members => hashOfJson members
  | .string sql => .ok (.ofSql sql)
  | .array [] => .ok (.and [])
  | .array (.string op :: operands) =>
    match normalizeOperator op with
    | "and" => (listOfJson operands).map .and
    | "or" => (listOfJson operands).map .or
    | "not" =>
      match operands with
      | [item] => (ofJson item).map .not
      | _ => .error (wrongArity "not" 1 operands.length)
    | op => leafOfJson op operands
  | .array (head :: _) =>
    .error (.malformedCondition
      ("unrecognized condition shape: operator must be a string, got " ++ head.compact))
  | json =>
    .error (.malformedCondition ("unrecognized condition shape: " ++ json.compact))

def listOfJson : List Json → Outcome (List Condition)
  | [] => .ok []
  | item :: items => do
    let item ← ofJson item
    let items ← listOfJson items
    return item :: items
end

/-- Read a condition from the text of a document. -/
def ofJsonText (s : String) : Outcome Condition :=
  match Json.parse? 127 s with
  | some json => ofJson json
  | none => .error .unreadableCondition

end SqlCompose.Condition
