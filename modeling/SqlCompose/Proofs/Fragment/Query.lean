import Mathlib
import SqlCompose.Fragment.Query
import SqlCompose.Proofs.Fragment.Trim

/-!
# The parts of a query

The statement of a query, taken apart: its own parameters, the clauses of its first member, and the
further members of its union. Before each clause but the first stands the text up to it, and from it
on the rest. A lookup as a condition is the lookup alone.
-/

namespace SqlCompose

namespace Fragment

/-- The modifier after the keyword SELECT. -/
def selectModifier : Option String → Fragment
  | some option => if option.isEmpty then [] else [.text (" " ++ option)]
  | none => []

def selectList (d : Dialect) (items : List SelectItem) : Fragment :=
  if items.isEmpty then [.text " *"] else .text " " :: join ", " (selectFragments d items)

end Fragment

open Fragment

def Query.clauses (d : Dialect) (q : Query) : List Fragment :=
  [.text "SELECT" :: Fragment.distinct d q.distinct ++ selectModifier q.selectOption ++
      selectList d q.select,
    listClause "FROM" (tableFragments d q.tables),
    Fragment.join " " (joinFragments d q.joins),
    clause "WHERE" (filterFragment d q.filter),
    listClause "GROUP BY" (groupingFragments d q.groupBy),
    clause "HAVING" (filterFragment d q.having),
    Fragment.orderBy d q.orderBy,
    [.text (d.limitClause q.limit q.offset)]]

/-- The first member of a query. -/
def Query.simple (d : Dialect) (q : Query) : Fragment := joinNonBlank " " (q.clauses d)

/-- The first clause always has a text, so each later one that has a text stands after a blank. -/
lemma Query.simple_append (d : Dialect) (q : Query) {n : Nat} (hn : n ≠ 0) :
    q.simple d = joinNonBlank " " ((q.clauses d).take n) ++
      joinFrom " " true ((q.clauses d).drop n) := by
  have hstarted : ((q.clauses d).take n).any (!·.isBlank) = true := by
    obtain ⟨n, rfl⟩ := Nat.exists_eq_succ_of_ne_zero hn
    rfl
  conv_lhs => rw [simple, ← List.take_append_drop n (q.clauses d)]
  rw [joinNonBlank, joinFrom_append, hstarted]
  rfl

/-- The first member of a query with the further members, if it has any. -/
def Query.withUnions (d : Dialect) (q : Query) : Fragment :=
  if q.unions.isEmpty then q.simple d
  else (if d.parenthesizesUnion then bracket (q.simple d) else q.simple d) ++
    .text " " :: Fragment.join " " (unionFragments d q.unions)

/-- A query is its parameters and then its trimmed clauses. -/
lemma Query.fragment_eq (d : Dialect) (q : Query) :
    q.fragment d = .supply q.params :: trimEnd (q.withUnions d) := by
  obtain ⟨_, option, _, _, _, _, _, _, _, _, _, _, _, _⟩ := q
  cases option <;> rfl

/-- A query starts with its keyword, or with a parenthesis before it. -/
lemma Query.exists_withUnions_eq_cons (d : Dialect) (q : Query) :
    ∃ f, q.withUnions d = .text "SELECT" :: f ∨ q.withUnions d = .text "(" :: f := by
  obtain ⟨f, hf⟩ : ∃ f, q.simple d = .text "SELECT" :: f := ⟨_, rfl⟩
  rw [withUnions, hf]
  split_ifs
  · exact ⟨_, .inl rfl⟩
  · exact ⟨_, .inr rfl⟩
  · exact ⟨_, .inl rfl⟩

/-! ### The text around a clause -/

namespace Query

/-- The text of a query before a clause, given by its number. -/
def upTo (d : Dialect) (q : Query) (n : Nat) : Fragment :=
  .supply q.params :: ((if !q.unions.isEmpty && d.parenthesizesUnion then [.text "("] else []) ++
    joinNonBlank " " ((q.clauses d).take n))

/-- The text of a query from a clause on. -/
def onwards (d : Dialect) (q : Query) (n : Nat) : Fragment :=
  joinFrom " " true ((q.clauses d).drop n) ++
    (if q.unions.isEmpty then []
      else (if d.parenthesizesUnion then [.text ")"] else []) ++
        .text " " :: Fragment.join " " (unionFragments d q.unions))

/-- A query is what stands before one of its clauses, and the rest, trimmed. -/
lemma fragment_eq_append (d : Dialect) (q : Query) {n : Nat} (hn : n ≠ 0) :
    q.fragment d = trimEnd (q.upTo d n ++ q.onwards d n) := by
  rw [fragment_eq, upTo, List.cons_append, trimEnd_supply_cons, withUnions, q.simple_append d hn,
    onwards]
  congr 2
  cases q.unions.isEmpty <;> cases d.parenthesizesUnion <;> simp [bracket]

end Query

/-- A join is its keyword, its table and its condition, if that has a text. -/
lemma joinFragments_cons (d : Dialect) (kind : JoinKind) (table : TableRef) (on : Option Condition)
    (joins : List Join) :
    joinFragments d (⟨kind, table, on⟩ :: joins) =
      (checkJoin d kind ++ (.text (kind.sql ++ " ") ::
        (table.fragment d ++ clause " ON" (filterFragment d on)))) :: joinFragments d joins := by
  rw [joinFragments, List.append_assoc]
  rfl

/-- A lookup is written as such, unless it looks for a field in a query. -/
lemma Condition.fragment_lookup {d : Dialect} {field : String} {lookup : Lookup}
    {operand : Operand} (h : ∀ q, lookup = .within → operand ≠ .query q) :
    (Condition.lookup field lookup operand).fragment d =
      lookup.fragment d (d.quoteColumn field) operand := by
  cases operand with
  | query q =>
    cases lookup with
    | within => exact absurd rfl (h q rfl)
    | _ => simp [Condition.fragment]
  | _ => simp [Condition.fragment]

end SqlCompose
