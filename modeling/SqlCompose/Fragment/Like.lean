import SqlCompose.Lookup.Pattern
import SqlCompose.Operator
import SqlCompose.Fragment.Membership

/-!
# LIKE conditions

A column is compared with the pattern of each value. A value is looked for literally and anywhere,
unless it is a pattern of its own. A null is no pattern.
-/

namespace SqlCompose.Fragment

/-- The keyword of an operator in a dialect. -/
def likeKeyword (d : Dialect) (op : LikeOp) : String :=
  let keyword := if op.isCaseInsensitive then d.ilikeOperator else "LIKE"
  if op.isNegated then "NOT " ++ keyword else keyword

/-- The predicate that a column is like one value. -/
def likeValue (d : Dialect) (op : LikeOp) (column : String) (rawPattern : Bool) (v : Value) :
    Fragment :=
  if v.isNull then
    [.refusal (.malformedCondition ("LIKE on " ++ column ++ " received NULL"))]
  else
    let keyword : Piece := .text (d.quoteColumn column ++ " " ++ likeKeyword d op ++ " ")
    if rawPattern then [keyword, .slot column (.text v.display)]
    else
      [keyword, .slot column (.text (Pattern.contains.apply v.display)), .text d.likeEscape]

/-- The predicate that a column is like all of some values, or like one of them. -/
def like (d : Dialect) (op : LikeOp) (column : String) (values : List Value)
    (rawPattern : Bool) : Fragment :=
  match values.map (likeValue d op column rawPattern) with
  | [] => ofEmptyList op.isNegated
  | [one] => one
  | several => bracket (join op.joiner several)

end SqlCompose.Fragment
