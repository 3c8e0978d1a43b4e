import Mathlib
import SqlCompose.Proofs.Fragment.Effects

/-!
# Supplied parameters

The parameter maps that come with a description, wherever in it they stand: those of its queries, of
verbatim conditions and of expressions, in the order in which a statement visits them. The names
that are reserved before a statement is written are the names of all of these maps, and a statement
that refuses nothing takes over exactly these maps.
-/

namespace SqlCompose

/-! ### The maps of a description -/

/-- The maps that come with an entry of an ordering. -/
def OrderItem.maps : OrderItem → List Params
  | .expr e => [e.params]
  | _ => []

mutual
def Operand.maps : Operand → List Params
  | .value _ | .list _ => []
  | .query q => q.maps
  | .expr e => [e.params]

def mapsOfPairs : List (String × Operand) → List Params
  | [] => []
  | (_, operand) :: pairs => operand.maps ++ mapsOfPairs pairs

/-- The maps that come with a condition. -/
def Condition.maps : Condition → List Params
  | .hash pairs => mapsOfPairs pairs
  | .and items => mapsOfConditions items
  | .or items => mapsOfConditions items
  | .not item => item.maps
  | .within _ (.query q) _ => q.maps
  | .exist q _ => q.maps
  | .compare _ _ operand => operand.maps
  | .lookup _ _ operand => operand.maps
  | .raw _ params => [params]
  | .expr e => [e.params]
  | .between .. | .within _ (.list _) _ | .within _ (.rows _) _ | .like .. => []

def mapsOfConditions : List Condition → List Params
  | [] => []
  | item :: items => item.maps ++ mapsOfConditions items

def mapsOfFilter : Option Condition → List Params
  | none => []
  | some c => c.maps

def Selectable.maps : Selectable → List Params
  | .column _ => []
  | .expr e => [e.params]
  | .query q => q.maps

def mapsOfGrouping : List Selectable → List Params
  | [] => []
  | item :: items => item.maps ++ mapsOfGrouping items

def mapsOfSelect : List SelectItem → List Params
  | [] => []
  | ⟨item, _⟩ :: items => item.maps ++ mapsOfSelect items

def TableSource.maps : TableSource → List Params
  | .table _ => []
  | .query q => q.maps
  | .expr e => [e.params]

def mapsOfTables : List TableRef → List Params
  | [] => []
  | ⟨source, _⟩ :: tables => source.maps ++ mapsOfTables tables

def mapsOfJoins : List Join → List Params
  | [] => []
  | ⟨_, ⟨source, _⟩, on⟩ :: joins => source.maps ++ mapsOfFilter on ++ mapsOfJoins joins

def mapsOfUnions : List UnionMember → List Params
  | [] => []
  | ⟨q, _⟩ :: unions => q.maps ++ mapsOfUnions unions

/-- The maps that come with a query. -/
def Query.maps : Query → List Params
  | ⟨select, _, _, tables, joins, filter, groupBy, having, orderBy, unions, _, _, _, params⟩ =>
    params :: (mapsOfSelect select ++ mapsOfTables tables ++ mapsOfJoins joins ++
      mapsOfFilter filter ++ mapsOfGrouping groupBy ++ mapsOfFilter having ++
      orderBy.flatMap OrderItem.maps ++ mapsOfUnions unions)
end

/-! ### The reserved names are the names of these maps -/

lemma OrderItem.suppliedNames_eq (item : OrderItem) :
    item.suppliedNames = item.maps.flatMap Params.names := by
  cases item <;> simp [OrderItem.suppliedNames, OrderItem.maps]

mutual
lemma Operand.suppliedNames_eq (operand : Operand) :
    operand.suppliedNames = operand.maps.flatMap Params.names := by
  match operand with
  | .value _ | .list _ => rfl
  | .query q => exact q.suppliedNames_eq
  | .expr e => simp [Operand.suppliedNames, Operand.maps]

lemma namesOfPairs_eq (pairs : List (String × Operand)) :
    namesOfPairs pairs = (mapsOfPairs pairs).flatMap Params.names := by
  match pairs with
  | [] => rfl
  | (_, operand) :: pairs =>
    rw [namesOfPairs, mapsOfPairs, List.flatMap_append, operand.suppliedNames_eq,
      namesOfPairs_eq pairs]

/-- The names reserved for a condition are those of its maps. -/
lemma Condition.suppliedNames_eq (c : Condition) :
    c.suppliedNames = c.maps.flatMap Params.names := by
  match c with
  | .hash pairs => exact namesOfPairs_eq pairs
  | .and items | .or items => exact namesOfConditions_eq items
  | .not item => exact item.suppliedNames_eq
  | .within _ (.query q) _ | .exist q _ => exact q.suppliedNames_eq
  | .compare _ _ operand | .lookup _ _ operand => exact operand.suppliedNames_eq
  | .raw _ params => simp [Condition.suppliedNames, Condition.maps]
  | .expr e => simp [Condition.suppliedNames, Condition.maps]
  | .within _ (.list _) _ | .within _ (.rows _) _ | .between .. | .like .. => rfl

lemma namesOfConditions_eq (items : List Condition) :
    namesOfConditions items = (mapsOfConditions items).flatMap Params.names := by
  match items with
  | [] => rfl
  | item :: items =>
    rw [namesOfConditions, mapsOfConditions, List.flatMap_append, item.suppliedNames_eq,
      namesOfConditions_eq items]

lemma namesOfFilter_eq (filter : Option Condition) :
    namesOfFilter filter = (mapsOfFilter filter).flatMap Params.names := by
  match filter with
  | none => rfl
  | some c => exact c.suppliedNames_eq

lemma Selectable.suppliedNames_eq (item : Selectable) :
    item.suppliedNames = item.maps.flatMap Params.names := by
  match item with
  | .column _ => rfl
  | .expr e => simp [Selectable.suppliedNames, Selectable.maps]
  | .query q => exact q.suppliedNames_eq

lemma namesOfGrouping_eq (items : List Selectable) :
    namesOfGrouping items = (mapsOfGrouping items).flatMap Params.names := by
  match items with
  | [] => rfl
  | item :: items =>
    rw [namesOfGrouping, mapsOfGrouping, List.flatMap_append, item.suppliedNames_eq,
      namesOfGrouping_eq items]

lemma namesOfSelect_eq (items : List SelectItem) :
    namesOfSelect items = (mapsOfSelect items).flatMap Params.names := by
  match items with
  | [] => rfl
  | ⟨item, _⟩ :: items =>
    rw [namesOfSelect, mapsOfSelect, List.flatMap_append, item.suppliedNames_eq,
      namesOfSelect_eq items]

lemma TableSource.suppliedNames_eq (source : TableSource) :
    source.suppliedNames = source.maps.flatMap Params.names := by
  match source with
  | .table _ => rfl
  | .query q => exact q.suppliedNames_eq
  | .expr e => simp [TableSource.suppliedNames, TableSource.maps]

lemma namesOfTables_eq (tables : List TableRef) :
    namesOfTables tables = (mapsOfTables tables).flatMap Params.names := by
  match tables with
  | [] => rfl
  | ⟨source, _⟩ :: tables =>
    rw [namesOfTables, mapsOfTables, List.flatMap_append, source.suppliedNames_eq,
      namesOfTables_eq tables]

lemma namesOfJoins_eq (joins : List Join) :
    namesOfJoins joins = (mapsOfJoins joins).flatMap Params.names := by
  match joins with
  | [] => rfl
  | ⟨_, ⟨source, _⟩, on⟩ :: joins =>
    rw [namesOfJoins, mapsOfJoins, List.flatMap_append, List.flatMap_append,
      source.suppliedNames_eq, namesOfFilter_eq on, namesOfJoins_eq joins]

lemma namesOfUnions_eq (unions : List UnionMember) :
    namesOfUnions unions = (mapsOfUnions unions).flatMap Params.names := by
  match unions with
  | [] => rfl
  | ⟨q, _⟩ :: unions =>
    rw [namesOfUnions, mapsOfUnions, List.flatMap_append, q.suppliedNames_eq,
      namesOfUnions_eq unions]

/-- The names reserved for a query are those of its maps. -/
lemma Query.suppliedNames_eq (q : Query) :
    q.suppliedNames = q.maps.flatMap Params.names := by
  match q with
  | ⟨select, _, _, tables, joins, filter, groupBy, having, orderBy, unions, _, _, _, params⟩ =>
    have horder : orderBy.flatMap OrderItem.suppliedNames =
        (orderBy.flatMap OrderItem.maps).flatMap Params.names := by
      rw [List.flatMap_assoc]
      exact List.flatMap_congr fun item _ => item.suppliedNames_eq
    rw [Query.suppliedNames, Query.maps, namesOfSelect_eq select, namesOfTables_eq tables,
      namesOfJoins_eq joins, namesOfFilter_eq filter, namesOfGrouping_eq groupBy,
      namesOfFilter_eq having, horder, namesOfUnions_eq unions]
    simp only [List.flatMap_cons, List.flatMap_append, List.append_assoc]
end

end SqlCompose
