/-!
# Operators

The comparison operators and the LIKE family.
-/

namespace SqlCompose

/-- A comparison of two operands. -/
inductive CompareOp
  | eq
  | ne
  | gt
  | gte
  | lt
  | lte
  deriving DecidableEq

namespace CompareOp

/-- The token of an operator. -/
def token : CompareOp → String
  | .eq => "="
  | .ne => "<>"
  | .gt => ">"
  | .gte => ">="
  | .lt => "<"
  | .lte => "<="

/-- The operator of a token; inequality has two of them. -/
def ofToken? : String → Option CompareOp
  | "=" => some .eq
  | "<>" | "!=" => some .ne
  | ">" => some .gt
  | ">=" => some .gte
  | "<" => some .lt
  | "<=" => some .lte
  | _ => none

end CompareOp

/-- An operator of the LIKE family. -/
inductive LikeOp
  | like
  | notLike
  | orLike
  | orNotLike
  | ilike
  | notIlike
  deriving DecidableEq

namespace LikeOp

/-- The operator of a keyword. -/
def ofKeyword? : String → Option LikeOp
  | "like" => some .like
  | "not like" => some .notLike
  | "or like" => some .orLike
  | "or not like" => some .orNotLike
  | "ilike" => some .ilike
  | "not ilike" => some .notIlike
  | _ => none

/-- The same operator with its negation flipped. -/
def negate : LikeOp → LikeOp
  | .like => .notLike
  | .notLike => .like
  | .orLike => .orNotLike
  | .orNotLike => .orLike
  | .ilike => .notIlike
  | .notIlike => .ilike

def isNegated : LikeOp → Bool
  | .notLike | .orNotLike | .notIlike => true
  | _ => false

/-- Whether an operator ignores letter case. -/
def isCaseInsensitive : LikeOp → Bool
  | .ilike | .notIlike => true
  | _ => false

/-- What stands between the predicates of several values. -/
def joiner : LikeOp → String
  | .orLike | .orNotLike => " OR "
  | _ => " AND "

end LikeOp

end SqlCompose
