import Mathlib
import SqlCompose.Proofs.Draft

/-!
# Outlines

The outline of a description is the description without its values: a null stays a null, any other
value becomes one and the same, and of a parameter map only the names are left. What a null check is
given counts by its truth value. Two descriptions of the same structure that differ in their values
alone, nulls and truth values of null checks agreeing, are two descriptions with the same outline.
-/

namespace SqlCompose

/-! ### Values -/

/-- A null, or the one value that stands for all others. -/
def Value.outline (v : Value) : Value := if v.isNull then .null else .int 1

/-- The truth value of a value, or null where it has none. -/
def Value.truth (v : Value) : Value :=
  match v.asBool? with
  | some b => .bool b
  | none => .null

@[simp] lemma Value.isNull_outline (v : Value) : v.outline.isNull = v.isNull := by
  cases v <;> rfl

/-- Two values have the same outline if both or neither of them is null. -/
lemma Value.outline_eq_iff {v w : Value} : v.outline = w.outline ↔ v.isNull = w.isNull := by
  cases v <;> cases w <;> simp [Value.outline, Value.isNull]

@[simp] lemma Value.asBool?_truth (v : Value) : v.truth.asBool? = v.asBool? := by
  unfold Value.truth
  split
  · rename_i b h
    rw [h]
    rfl
  · rename_i h
    rw [h]
    rfl

/-- The names of some parameters. -/
def Params.outline (p : Params) : Params where
  map.entries := p.toList.map fun e => (e.1, .null)
  map.nodup := by
    rw [List.map_map]
    exact p.nodup_names

@[simp] lemma Params.names_outline (p : Params) : p.outline.names = p.names := by
  simp [Params.names_eq_map, Params.outline, Params.toList]

@[simp] lemma Params.outline_outline (p : Params) : p.outline.outline = p.outline := by
  simp [outline, toList]

/-- Two maps have the same outline if they have the same names in the same order. -/
lemma Params.outline_eq_iff {p q : Params} : p.outline = q.outline ↔ p.names = q.names := by
  constructor
  · intro h
    rw [← names_outline, h, names_outline]
  · intro h
    have hentries (p : Params) : p.outline.map.entries = p.names.map fun n => (n, Value.null) := by
      simp [Params.outline, Params.names_eq_map]
    have heq : p.outline.map.entries = q.outline.map.entries := by rw [hentries, hentries, h]
    generalize p.outline = p', q.outline = q' at heq
    obtain ⟨⟨entries, hnd⟩⟩ := p'
    obtain ⟨⟨entries', hnd'⟩⟩ := q'
    obtain rfl : entries = entries' := heq
    rfl

def Expression.outline (e : Expression) : Expression := { e with params := e.params.outline }

def OrderItem.outline : OrderItem → OrderItem
  | .expr e => .expr e.outline
  | item => item

/-! ### Conditions and queries -/

/-- What a null check is given, as a truth value. -/
def Operand.truth : Operand → Operand
  | .value v => .value v.truth
  | operand => operand

mutual
def Operand.outline : Operand → Operand
  | .value v => .value v.outline
  | .list vs => .list (vs.map Value.outline)
  | .query q => .query q.outline
  | .expr e => .expr e.outline

def outlinePairs : List (String × Operand) → List (String × Operand)
  | [] => []
  | (column, operand) :: pairs => (column, operand.outline) :: outlinePairs pairs

/-- A condition without its values. -/
def Condition.outline : Condition → Condition
  | .hash pairs => .hash (outlinePairs pairs)
  | .and items => .and (outlineConditions items)
  | .or items => .or (outlineConditions items)
  | .not item => .not item.outline
  | .between column low high negated => .between column low.outline high.outline negated
  | .within columns (.list vs) negated => .within columns (.list (vs.map Value.outline)) negated
  | .within columns (.rows rows) negated =>
    .within columns (.rows (rows.map (List.map Value.outline))) negated
  | .within columns (.query q) negated => .within columns (.query q.outline) negated
  | .like op column vs rawPattern => .like op column (vs.map Value.outline) rawPattern
  | .exist q negated => .exist q.outline negated
  | .compare column op operand => .compare column op operand.outline
  | .raw sql params => .raw sql params.outline
  | .expr e => .expr e.outline
  | .lookup field lookup operand =>
    .lookup field lookup (if lookup = .isNull then operand.truth else operand.outline)

def outlineConditions : List Condition → List Condition
  | [] => []
  | item :: items => item.outline :: outlineConditions items

def outlineFilter : Option Condition → Option Condition
  | none => none
  | some c => some c.outline

def Selectable.outline : Selectable → Selectable
  | .column name => .column name
  | .expr e => .expr e.outline
  | .query q => .query q.outline

def outlineGrouping : List Selectable → List Selectable
  | [] => []
  | item :: items => item.outline :: outlineGrouping items

def outlineSelect : List SelectItem → List SelectItem
  | [] => []
  | ⟨item, label⟩ :: items => ⟨item.outline, label⟩ :: outlineSelect items

def TableSource.outline : TableSource → TableSource
  | .table name => .table name
  | .query q => .query q.outline
  | .expr e => .expr e.outline

def outlineTables : List TableRef → List TableRef
  | [] => []
  | ⟨source, label⟩ :: tables => ⟨source.outline, label⟩ :: outlineTables tables

def outlineJoins : List Join → List Join
  | [] => []
  | ⟨kind, ⟨source, label⟩, on⟩ :: joins =>
    ⟨kind, ⟨source.outline, label⟩, outlineFilter on⟩ :: outlineJoins joins

def outlineUnions : List UnionMember → List UnionMember
  | [] => []
  | ⟨q, all⟩ :: unions => ⟨q.outline, all⟩ :: outlineUnions unions

/-- A query without its values. How the rows of its result are keyed is no part of the statement. -/
def Query.outline : Query → Query
  | ⟨select, option, distinct, tables, joins, filter, groupBy, having, orderBy, unions, limit,
      offset, _, params⟩ =>
    ⟨outlineSelect select, option, distinct, outlineTables tables, outlineJoins joins,
      outlineFilter filter, outlineGrouping groupBy, outlineFilter having,
      orderBy.map OrderItem.outline, outlineUnions unions, limit, offset, none, params.outline⟩
end

/-! ### Drafts -/

def Statement.outline : Statement → Statement
  | .select q => .select q.outline
  | .insert table columns => .insert table (outlinePairs columns)
  | .insertFrom table columns q => .insertFrom table columns q.outline
  | .batchInsert table columns rows =>
    .batchInsert table columns (rows.map (List.map Value.outline))
  | .update table columns filter => .update table (outlinePairs columns) (outlineFilter filter)
  | .delete table filter => .delete table (outlineFilter filter)
  | .truncateTable table => .truncateTable table
  | .dropTable table => .dropTable table

def Draft.outline : Draft → Draft
  | .statement s => .statement s.outline
  | .condition c => .condition c.outline

end SqlCompose
