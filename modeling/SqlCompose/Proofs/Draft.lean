import Mathlib
import SqlCompose.Proofs.Supplied.Fragment

/-!
# Drafts

What a builder writes: a statement, or a condition on its own. A draft that is written refuses
nothing, its text is its fragment with every value in place, and its parameters are those that are
bound in the end.
-/

namespace SqlCompose

open Fragment

def Statement.maps : Statement → List Params
  | .select q => q.maps
  | .insert _ columns => mapsOfPairs columns
  | .insertFrom _ _ q => q.maps
  | .update _ columns filter => mapsOfPairs columns ++ mapsOfFilter filter
  | .delete _ filter => mapsOfFilter filter
  | .batchInsert .. | .truncateTable _ | .dropTable _ => []

/-- A statement, or a condition on its own. -/
inductive Draft
  | statement (s : Statement)
  | condition (c : Condition)

namespace Draft

def fragment (d : Dialect) (schema : Option SchemaRegistry) : Draft → Fragment
  | .statement s => s.fragment d schema
  | .condition c => c.fragment d

/-- The names that are reserved for a draft. -/
def suppliedNames : Draft → List String
  | .statement s => s.suppliedNames
  | .condition c => c.suppliedNames

def maps : Draft → List Params
  | .statement s => s.maps
  | .condition c => c.maps

end Draft

def Builder.write (b : Builder) : Draft → Outcome Built
  | .statement s => b.build s
  | .condition c => b.condition c

/-! ### Reserved and supplied parameters -/

/-- The names reserved for a statement are those of the maps that come with it. -/
lemma Statement.suppliedNames_eq (s : Statement) :
    s.suppliedNames = s.maps.flatMap Params.names := by
  cases s with
  | select q => exact q.suppliedNames_eq
  | insert _ columns => exact namesOfPairs_eq columns
  | insertFrom _ _ q => exact q.suppliedNames_eq
  | update _ columns filter =>
    rw [Statement.suppliedNames, Statement.maps, List.flatMap_append, namesOfPairs_eq,
      namesOfFilter_eq]
  | delete _ filter => exact namesOfFilter_eq filter
  | batchInsert | truncateTable | dropTable => rfl

lemma Draft.suppliedNames_eq (s : Draft) : s.suppliedNames = s.maps.flatMap Params.names := by
  cases s with
  | statement s => exact s.suppliedNames_eq
  | condition c => exact c.suppliedNames_eq

lemma supplies_assigned {d : Dialect} {schema : Option SchemaRegistry} {table column : String}
    {operand : Operand} (h : error? (assigned d schema table column operand) = none) :
    supplies (assigned d schema table column operand) = operand.maps := by
  cases operand with
  | value v => rfl
  | list vs => simp [assigned] at h
  | query q =>
    rw [assigned, error?_bracket] at h
    rw [assigned, supplies_bracket, q.supplies_fragment h, Operand.maps]
  | expr e => rfl

lemma supplies_assignments {d : Dialect} {schema : Option SchemaRegistry} {table : String}
    (columns : List (String × Operand))
    (h : ∀ p ∈ columns, error? (assigned d schema table p.1 p.2) = none) :
    (columns.flatMap fun p => supplies (assigned d schema table p.1 p.2)) =
      mapsOfPairs columns := by
  induction columns with
  | nil => rfl
  | cons pair columns ih =>
    rw [List.forall_mem_cons] at h
    rw [List.flatMap_cons, supplies_assigned h.1, ih h.2, mapsOfPairs]

lemma supplies_batchRows (schema : Option SchemaRegistry) (table : String)
    (columns : List String) (rows : List (List Value)) :
    supplies (batchRows schema table columns rows) = [] := by
  simp [batchRows, List.flatMap_map]

/-- The text of a statement supplies the maps of the statement, in order. -/
lemma Statement.supplies_fragment {d : Dialect} {schema : Option SchemaRegistry} (s : Statement)
    (h : error? (s.fragment d schema) = none) : supplies (s.fragment d schema) = s.maps := by
  cases s with
  | select q => exact q.supplies_fragment h
  | insert table columns =>
    simp only [Statement.fragment, Statement.maps] at h ⊢
    split at h
    · rename_i hempty
      rw [if_pos hempty, List.isEmpty_iff.mp hempty]
      rfl
    · rename_i hempty
      simp only [error?_text_cons, error?_bracket, error?_join, List.mem_map,
        forall_exists_index, and_imp, forall_apply_eq_imp_iff₂] at h
      rw [if_neg hempty, supplies_text_cons, supplies_bracket, supplies_join, List.flatMap_map]
      exact supplies_assignments columns h
  | insertFrom table columns q => exact q.supplies_fragment h
  | batchInsert table columns rows =>
    simp only [Statement.fragment, Statement.maps]
    split_ifs
    · rfl
    · rfl
    · split
      · rfl
      · rw [supplies_text_cons, supplies_batchRows]
  | update table columns filter =>
    simp only [Statement.fragment, Statement.maps] at h ⊢
    split at h
    · simp at h
    · rename_i hempty
      simp only [error?_text_cons, error?_append, Option.or_eq_none_iff, error?_join, List.mem_map,
        forall_exists_index, and_imp, forall_apply_eq_imp_iff₂, error?_whereClause] at h
      rw [if_neg hempty, supplies_text_cons, supplies_append, supplies_join, List.flatMap_map,
        supplies_whereClause, supplies_filterFragment filter h.2]
      exact congrArg (· ++ _) (supplies_assignments columns h.1)
  | delete table filter =>
    simp only [Statement.fragment, error?_text_cons, error?_whereClause] at h
    rw [Statement.fragment, supplies_text_cons, supplies_whereClause,
      supplies_filterFragment filter h, Statement.maps]
  | truncateTable | dropTable => rfl

lemma Draft.supplies_fragment {d : Dialect} {schema : Option SchemaRegistry} (s : Draft)
    (h : error? (s.fragment d schema) = none) : supplies (s.fragment d schema) = s.maps := by
  cases s with
  | statement s => exact s.supplies_fragment h
  | condition c => exact c.supplies_fragment h

/-! ### Written drafts -/

@[simp] lemma Built.allParams_of (sql : String) (params : Params) :
    (Built.of sql params).allParams = params := by
  unfold Built.of Built.allParams
  dsimp only
  split
  · rename_i h
    obtain ⟨⟨entries, hnd⟩⟩ := params
    obtain rfl : entries = [] := Params.isEmpty_iff.mp h
    rfl
  · rfl

namespace Builder

variable {b : Builder} {s : Draft} {out : Built}

/-- The binding that a builder starts a draft with. -/
def startFor (b : Builder) (s : Draft) : Binding :=
  (Binding.start b.dialect b.inlineValues).reserve s.suppliedNames

/-- The text that stands for each value of a draft, with the value, in order. -/
def placed (b : Builder) (s : Draft) : List (String × Value) :=
  (b.startFor s).placed (s.fragment b.dialect b.schema)

@[simp] lemma startFor_inline : (b.startFor s).inline = b.inlineValues := rfl

@[simp] lemma startFor_dialect : (b.startFor s).dialect = b.dialect := rfl

@[simp] lemma startFor_params : (b.startFor s).params = ∅ := rfl

lemma startFor_reserved : (b.startFor s).reserved = s.maps.flatMap Params.names :=
  s.suppliedNames_eq

/-- A draft is written from the binding that it starts with. -/
lemma write_eq : b.write s =
    ((b.startFor s).write (s.fragment b.dialect b.schema)).1.map fun sql =>
      .of sql ((b.startFor s).write (s.fragment b.dialect b.schema)).2.params := by
  cases s <;> rfl

/-- A draft is written unless it refuses something; then the error is its first refusal. -/
lemma write_eq_match : b.write s = match error? (s.fragment b.dialect b.schema) with
    | some e => .error e
    | none => .ok (.of ((s.fragment b.dialect b.schema).fill ((b.placed s).map Prod.fst))
        ((b.startFor s).write (s.fragment b.dialect b.schema)).2.params) := by
  rw [write_eq, Binding.write_fst]
  cases error? (s.fragment b.dialect b.schema) <;> rfl

lemma error?_eq_none_of_write (h : b.write s = .ok out) :
    error? (s.fragment b.dialect b.schema) = none := by
  rw [write_eq_match] at h
  cases he : error? (s.fragment b.dialect b.schema) with
  | none => rfl
  | some e => simp [he] at h

/-- The text that is written has the placed texts in its slots. -/
lemma sql_of_write (h : b.write s = .ok out) :
    out.sql = (s.fragment b.dialect b.schema).fill ((b.placed s).map Prod.fst) := by
  have he := error?_eq_none_of_write h
  rw [write_eq_match, he] at h
  obtain rfl := Except.ok.inj h
  rfl

/-- A written draft has all parameters that are bound at its end. -/
lemma allParams_of_write (h : b.write s = .ok out) :
    out.allParams = ((b.startFor s).write (s.fragment b.dialect b.schema)).2.params := by
  have he := error?_eq_none_of_write h
  rw [write_eq_match, he] at h
  obtain rfl := Except.ok.inj h
  exact Built.allParams_of ..

end Builder

end SqlCompose
