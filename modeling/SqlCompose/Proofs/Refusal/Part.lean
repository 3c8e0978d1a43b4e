import Mathlib
import SqlCompose.Fragment.Query

/-!
# What a dialect refuses

The parts of a query are its DISTINCT, its joins and its conditions, and those of every query inside
it, wherever in it that stands. Each part is taken or refused for itself: a feature that the dialect
does not have, an operator with operands that it cannot take, or a lookup with such an operand.
-/

namespace SqlCompose

/-- A part of a query that a dialect may refuse. -/
inductive Part
  | distinct (x : Distinct)
  | join (kind : JoinKind)
  | condition (c : Condition)

/-! ### The parts of a description -/

mutual
/-- The parts inside an operand. -/
def Operand.parts : Operand → List Part
  | .value _ | .list _ | .expr _ => []
  | .query q => q.parts

def partsOfPairs : List (String × Operand) → List Part
  | [] => []
  | (_, operand) :: pairs => operand.parts ++ partsOfPairs pairs

/-- The parts inside a condition, the condition itself excepted. -/
def Condition.inside : Condition → List Part
  | .hash pairs => partsOfPairs pairs
  | .and items | .or items => partsOfConditions items
  | .not item => .condition item :: item.inside
  | .within _ (.query q) _ => q.parts
  | .exist q _ => q.parts
  | .compare _ _ operand => operand.parts
  | .lookup _ _ operand => operand.parts
  | .between .. | .within _ (.list _) _ | .within _ (.rows _) _ | .like .. | .raw .. | .expr _ => []

def partsOfConditions : List Condition → List Part
  | [] => []
  | item :: items => .condition item :: (item.inside ++ partsOfConditions items)

def partsOfFilter : Option Condition → List Part
  | none => []
  | some c => .condition c :: c.inside

def Selectable.parts : Selectable → List Part
  | .column _ | .expr _ => []
  | .query q => q.parts

def partsOfGrouping : List Selectable → List Part
  | [] => []
  | item :: items => item.parts ++ partsOfGrouping items

def partsOfSelect : List SelectItem → List Part
  | [] => []
  | ⟨item, _⟩ :: items => item.parts ++ partsOfSelect items

def TableSource.parts : TableSource → List Part
  | .table _ | .expr _ => []
  | .query q => q.parts

def partsOfTables : List TableRef → List Part
  | [] => []
  | ⟨source, _⟩ :: tables => source.parts ++ partsOfTables tables

def partsOfJoins : List Join → List Part
  | [] => []
  | ⟨kind, ⟨source, _⟩, on⟩ :: joins =>
    .join kind :: (source.parts ++ partsOfFilter on ++ partsOfJoins joins)

def partsOfUnions : List UnionMember → List Part
  | [] => []
  | ⟨q, _⟩ :: unions => q.parts ++ partsOfUnions unions

/-- The parts of a query. -/
def Query.parts : Query → List Part
  | ⟨select, _, distinct, tables, joins, filter, groupBy, having, _, unions, _, _, _, _⟩ =>
    .distinct distinct :: (partsOfSelect select ++ partsOfTables tables ++ partsOfJoins joins ++
      partsOfFilter filter ++ partsOfGrouping groupBy ++ partsOfFilter having ++
      partsOfUnions unions)
end

/-! ### Parts that are refused -/

/-- Whether a lookup takes a single value. -/
def Lookup.isScalar : Lookup → Bool
  | .range | .within | .search => false
  | _ => true

/-- Whether a lookup looks for a text. -/
def Lookup.isPattern : Lookup → Bool
  | .contains | .icontains | .startsWith | .istartsWith | .endsWith | .iendsWith => true
  | _ => false

/-- A lookup that a dialect does not take with an operand. -/
inductive Lookup.Rejects (d : Dialect) : Lookup → Operand → Prop
  | search (operand : Operand) : Rejects d .search operand
  | regex (operand : Operand) (h : d = .mssql) : Rejects d .regex operand
  | iregex (operand : Operand) (h : d = .mssql) : Rejects d .iregex operand
  | notScalar {lookup : Lookup} {operand : Operand} (h : lookup.isScalar = true)
    (hoperand : ∀ v, operand ≠ .value v) : Rejects d lookup operand
  | nullPattern {lookup : Lookup} (h : lookup.isPattern = true) : Rejects d lookup (.value .null)
  | bounds {operand : Operand} (h : ∀ low high, operand ≠ .list [low, high]) :
    Rejects d .range operand
  | memberOfExpr (e : Expression) : Rejects d .within (.expr e)
  | notBoolean {v : Value} (h : v.asBool? = none) : Rejects d .isNull (.value v)
  | notInteger {v : Value} (p : DatePart) (h : v.asInt? = none) : Rejects d (.part p) (.value v)
  | weekDay {v : Value} {n : Int64} (h : v.asInt? = some n) (hn : ¬(1 ≤ n ∧ n ≤ 7)) :
    Rejects d (.part .weekDay) (.value v)

/-- A part that a dialect refuses. -/
inductive Part.IsRefused (d : Dialect) : Part → Prop
  | distinctOn (columns : List String) (h : d ≠ .pgsql) : IsRefused d (.distinct (.on columns))
  | fullJoin (h : d = .mysql ∨ d = .sqlite ∨ d = .cubrid) : IsRefused d (.join .full)
  | rightJoin (h : d = .sqlite) : IsRefused d (.join .right)
  | noColumn (members : Members) (negated : Bool) :
    IsRefused d (.condition (.within [] members negated))
  | listOfTuples {columns : List String} (values : List Value) (negated : Bool)
    (h : columns.length ≠ 1) : IsRefused d (.condition (.within columns (.list values) negated))
  | rowWidth {columns : List String} {rows : List (List Value)} {row : List Value}
    (negated : Bool) (hrow : row ∈ rows) (h : row.length ≠ columns.length) :
    IsRefused d (.condition (.within columns (.rows rows) negated))
  | likeNull (op : LikeOp) (column : String) {values : List Value} (rawPattern : Bool)
    (h : .null ∈ values) : IsRefused d (.condition (.like op column values rawPattern))
  | compareList (column : String) (op : CompareOp) (values : List Value) :
    IsRefused d (.condition (.compare column op (.list values)))
  | lookup (field : String) {lookup : Lookup} {operand : Operand} (h : lookup.Rejects d operand) :
    IsRefused d (.condition (.lookup field lookup operand))

end SqlCompose
