import Mathlib
import SqlCompose.Proofs.Refusal.Part
import SqlCompose.Proofs.Draft

/-!
# What a description binds

The values that a description has placeholders for, and the parameter maps that come with it, in the
order in which they are bound. No dialect has a say in this list: a value is known by where it comes
from, and only what is bound for it depends on the dialect.
-/

namespace SqlCompose

open Fragment

/-- Where a bound value comes from. -/
inductive Origin
  /-- A value of a parameter map. -/
  | supplied (v : Value)
  /-- A value that a column is compared with or set to. -/
  | operand (v : Value)
  /-- The number of a part of a date. -/
  | datePart (p : DatePart) (n : Int64)

/-- What a dialect binds for a value. -/
def Origin.valueIn (d : Dialect) : Origin → Value
  | .supplied v => v
  | .operand v => Binding.boundValue d v
  | .datePart p n => extractedValue d p n

/-- What is bound at one place: a value under the name of its column, or a whole map. -/
inductive Bindable
  | value (column : String) (v : Value)
  | datePart (field : String) (p : DatePart) (n : Int64)
  | supplied (params : Params)

namespace Bindable

/-- The piece of a fragment that binds it. -/
def piece (d : Dialect) : Bindable → Piece
  | .value column v => .slot (Binding.base column) v
  | .datePart field p n => .slot (Binding.base field) (extractedValue d p n)
  | .supplied params => .supply params

/-- Where the values that it binds come from. -/
def origins : Bindable → List Origin
  | .value _ v => [.operand v]
  | .datePart _ p n => [.datePart p n]
  | .supplied params => params.toList.map fun entry => .supplied entry.2

/-- A value that a null check stands for if it is null. -/
def nonNull (column : String) (v : Value) : List Bindable :=
  if v.isNull then [] else [.value column v]

end Bindable

open Bindable

/-! ### The values of a lookup -/

/-- What a lookup that takes a single value binds. -/
def Lookup.bindablesOfValue (lookup : Lookup) (field : String) (v : Value) : List Bindable :=
  match lookup with
  | .exact | .iexact => nonNull field v
  | .contains | .icontains => [.value field (.text (Pattern.contains.apply v.display))]
  | .startsWith | .istartsWith => [.value field (.text (Pattern.startsWith.apply v.display))]
  | .endsWith | .iendsWith => [.value field (.text (Pattern.endsWith.apply v.display))]
  | .part p => (v.asInt?.map (Bindable.datePart field p)).toList
  | .gt | .gte | .lt | .lte | .regex | .iregex | .within => [.value field v]
  | .range | .isNull | .search => []

/-- What a lookup binds. -/
def Lookup.bindables (lookup : Lookup) (field : String) : Operand → List Bindable
  | .value v => lookup.bindablesOfValue field v
  | .list values => values.map (.value field)
  | .query _ | .expr _ => []

/-! ### The values of a description -/

def OrderItem.bindables : OrderItem → List Bindable
  | .expr e => [.supplied e.params]
  | .column .. | .random => []

mutual
/-- What a condition binds. -/
def Condition.bindables : Condition → List Bindable
  | .hash pairs => bindablesOfPairs pairs
  | .and items | .or items => bindablesOfConditions items
  | .not item => item.bindables
  | .between column low high _ => [.value column low, .value column high]
  | .within columns (.list values) _ =>
    columns.flatMap fun column => values.flatMap (nonNull column)
  | .within columns (.rows rows) _ =>
    rows.flatMap fun row => (columns.zip row).map fun (column, v) => .value column v
  | .within _ (.query q) _ | .exist q _ => q.bindables
  | .like _ column values rawPattern => values.map fun v =>
    .value column (.text (if rawPattern then v.display else Pattern.contains.apply v.display))
  | .compare column _ (.value v) => nonNull column v
  | .compare _ _ (.list _) => []
  | .compare _ _ (.query q) => q.bindables
  | .compare _ _ (.expr e) => [.supplied e.params]
  | .raw _ params => [.supplied params]
  | .expr e => [.supplied e.params]
  | .lookup _ _ (.query q) => q.bindables
  | .lookup field lookup operand => lookup.bindables field operand

def bindablesOfPairs : List (String × Operand) → List Bindable
  | [] => []
  | (column, .value v) :: pairs => nonNull column v ++ bindablesOfPairs pairs
  | (column, .list values) :: pairs => values.flatMap (nonNull column) ++ bindablesOfPairs pairs
  | (_, .query q) :: pairs => q.bindables ++ bindablesOfPairs pairs
  | (_, .expr e) :: pairs => .supplied e.params :: bindablesOfPairs pairs

def bindablesOfConditions : List Condition → List Bindable
  | [] => []
  | item :: items => item.bindables ++ bindablesOfConditions items

def bindablesOfFilter : Option Condition → List Bindable
  | none => []
  | some c => c.bindables

def Selectable.bindables : Selectable → List Bindable
  | .column _ => []
  | .expr e => [.supplied e.params]
  | .query q => q.bindables

def bindablesOfGrouping : List Selectable → List Bindable
  | [] => []
  | item :: items => item.bindables ++ bindablesOfGrouping items

def bindablesOfSelect : List SelectItem → List Bindable
  | [] => []
  | ⟨item, _⟩ :: items => item.bindables ++ bindablesOfSelect items

def TableSource.bindables : TableSource → List Bindable
  | .table _ => []
  | .query q => q.bindables
  | .expr e => [.supplied e.params]

def bindablesOfTables : List TableRef → List Bindable
  | [] => []
  | ⟨source, _⟩ :: tables => source.bindables ++ bindablesOfTables tables

def bindablesOfJoins : List Join → List Bindable
  | [] => []
  | ⟨_, ⟨source, _⟩, on⟩ :: joins =>
    source.bindables ++ bindablesOfFilter on ++ bindablesOfJoins joins

def bindablesOfUnions : List UnionMember → List Bindable
  | [] => []
  | ⟨q, _⟩ :: unions => q.bindables ++ bindablesOfUnions unions

/-- What a query binds. -/
def Query.bindables : Query → List Bindable
  | ⟨select, _, _, tables, joins, filter, groupBy, having, orderBy, unions, _, _, _, params⟩ =>
    .supplied params :: (bindablesOfSelect select ++ bindablesOfTables tables ++
      bindablesOfJoins joins ++ bindablesOfFilter filter ++ bindablesOfGrouping groupBy ++
      bindablesOfFilter having ++ orderBy.flatMap OrderItem.bindables ++ bindablesOfUnions unions)
end

def Operand.bindables (schema : Option SchemaRegistry) (table column : String) :
    Operand → List Bindable
  | .value v => [.value column (castFor schema table column v)]
  | .list _ => []
  | .query q => q.bindables
  | .expr e => [.supplied e.params]

/-- What a statement binds; values that go into columns are cast by the schema. -/
def Statement.bindables (schema : Option SchemaRegistry) : Statement → List Bindable
  | .select q | .insertFrom _ _ q => q.bindables
  | .insert table columns =>
    columns.flatMap fun (column, operand) => operand.bindables schema table column
  | .batchInsert table columns rows => rows.flatMap fun row =>
    (columns.zip row).map fun (column, v) => .value column (castFor schema table column v)
  | .update table columns filter =>
    (columns.flatMap fun (column, operand) => operand.bindables schema table column) ++
      bindablesOfFilter filter
  | .delete _ filter => bindablesOfFilter filter
  | .truncateTable _ | .dropTable _ => []

namespace Draft

/-- What a draft binds. -/
def bindables (schema : Option SchemaRegistry) : Draft → List Bindable
  | .statement s => s.bindables schema
  | .condition c => c.bindables

/-- Where the values that a draft binds come from. -/
def origins (schema : Option SchemaRegistry) (s : Draft) : List Origin :=
  (s.bindables schema).flatMap Bindable.origins

end Draft

/-! ### Rows with a null -/

/-- A membership in rows of which one has a null. -/
inductive Part.HasNullRow : Part → Prop
  | mk (columns : List String) {rows : List (List Value)} {row : List Value} (negated : Bool)
    (hrow : row ∈ rows) (h : .null ∈ row) :
    HasNullRow (.condition (.within columns (.rows rows) negated))

/-- The parts of a statement. -/
def Statement.parts : Statement → List Part
  | .select q | .insertFrom _ _ q => q.parts
  | .insert _ columns => partsOfPairs columns
  | .update _ columns filter => partsOfPairs columns ++ partsOfFilter filter
  | .delete _ filter => partsOfFilter filter
  | .batchInsert .. | .truncateTable _ | .dropTable _ => []

def Draft.parts : Draft → List Part
  | .statement s => s.parts
  | .condition c => .condition c :: c.inside

end SqlCompose
