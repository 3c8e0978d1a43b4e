import SqlCompose.Query.Basic

/-!
# Supplied names

The names of the parameters that come with a description: those of the query itself, of verbatim
conditions and expressions, and of every query inside.
-/

namespace SqlCompose

def OrderItem.suppliedNames : OrderItem → List String
  | .expr e => e.params.names
  | _ => []

mutual
def Operand.suppliedNames : Operand → List String
  | .query q => q.suppliedNames
  | .expr e => e.params.names
  | _ => []

def namesOfPairs : List (String × Operand) → List String
  | [] => []
  | (_, operand) :: pairs => operand.suppliedNames ++ namesOfPairs pairs

/-- The names supplied with a condition. -/
def Condition.suppliedNames : Condition → List String
  | .hash pairs => namesOfPairs pairs
  | .and items => namesOfConditions items
  | .or items => namesOfConditions items
  | .not item => item.suppliedNames
  | .within _ (.query q) _ => q.suppliedNames
  | .exist q _ => q.suppliedNames
  | .compare _ _ operand => operand.suppliedNames
  | .lookup _ _ operand => operand.suppliedNames
  | .raw _ params => params.names
  | .expr e => e.params.names
  | _ => []

def namesOfConditions : List Condition → List String
  | [] => []
  | item :: items => item.suppliedNames ++ namesOfConditions items

def namesOfFilter : Option Condition → List String
  | none => []
  | some c => c.suppliedNames

def Selectable.suppliedNames : Selectable → List String
  | .column _ => []
  | .expr e => e.params.names
  | .query q => q.suppliedNames

def namesOfGrouping : List Selectable → List String
  | [] => []
  | item :: items => item.suppliedNames ++ namesOfGrouping items

def namesOfSelect : List SelectItem → List String
  | [] => []
  | ⟨item, _⟩ :: items => item.suppliedNames ++ namesOfSelect items

def TableSource.suppliedNames : TableSource → List String
  | .table _ => []
  | .query q => q.suppliedNames
  | .expr e => e.params.names

def namesOfTables : List TableRef → List String
  | [] => []
  | ⟨source, _⟩ :: tables => source.suppliedNames ++ namesOfTables tables

def namesOfJoins : List Join → List String
  | [] => []
  | ⟨_, ⟨source, _⟩, on⟩ :: joins =>
    source.suppliedNames ++ namesOfFilter on ++ namesOfJoins joins

def namesOfUnions : List UnionMember → List String
  | [] => []
  | ⟨q, _⟩ :: unions => q.suppliedNames ++ namesOfUnions unions

/-- The names supplied with a query. -/
def Query.suppliedNames : Query → List String
  | ⟨select, _, _, tables, joins, filter, groupBy, having, orderBy, unions, _, _, _, params⟩ =>
    params.names ++ namesOfSelect select ++ namesOfTables tables ++ namesOfJoins joins ++
      namesOfFilter filter ++ namesOfGrouping groupBy ++ namesOfFilter having ++
      orderBy.flatMap OrderItem.suppliedNames ++ namesOfUnions unions
end

end SqlCompose
