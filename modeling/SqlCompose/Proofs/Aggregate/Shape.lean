import Mathlib
import SqlCompose.Proofs.Draft
import SqlCompose.Proofs.Fragment.Around
import SqlCompose.Proofs.Fragment.Query

/-!
# The shapes of an aggregate

An aggregate over the rows of a query is the query with another SELECT list, or a query around it.
In both shapes the sources, the joins and the filter stand as they do in the query, between what
stands before and after them. In the second shape the statement of the query itself stands in
parentheses, with its own parameters.
-/

namespace SqlCompose

open Fragment

@[simp] lemma Dialect.limitClause_none (d : Dialect) : d.limitClause none none = "" := by
  cases d <;> rfl

/-! ### Trimming the end of a fragment -/

namespace Fragment

variable {f g : Fragment}

/-- Where nothing stops it, trimming goes on to what stands before. -/
lemma trimReversed_append_of_not_stops (h : f.any Piece.stops = false) :
    trimReversed (f ++ g) = trimReversed f ++ trimReversed g := by
  induction f with
  | nil => rfl
  | cons piece f ih =>
    rw [List.any_cons, Bool.or_eq_false_iff] at h
    cases piece with
    | text s =>
      have hblank : Text.isBlank s = true := by simpa [Piece.stops] using h.1
      simp only [List.cons_append, trimReversed, Text.isEmpty_trimEnd, hblank, if_true]
      exact ih h.2
    | supply params => exact congrArg (_ :: ·) (ih h.2)
    | slot | refusal => simp [Piece.stops] at h

/-- Trimming drops blanks of a part only if it drops nothing else of what stands after it. -/
lemma exists_trimEnd_append (f g : Fragment) :
    ∃ f', trimEnd (f ++ g) = f' ++ trimEnd g ∧ (f' = f ∨ f' = trimEnd f) := by
  cases h : g.any Piece.stops with
  | true => exact ⟨f, trimEnd_append h, .inl rfl⟩
  | false =>
    refine ⟨trimEnd f, ?_, .inr rfl⟩
    rw [trimEnd, List.reverse_append, trimReversed_append_of_not_stops (by simpa using h),
      List.reverse_append]
    rfl

end Fragment

namespace Query

variable {d : Dialect} {q : Query} {e : String}

/-! ### The rows of a query -/

/-- The sources, the joins and the filter of a query, with a blank before each of them. -/
def rows (d : Dialect) (q : Query) : Fragment := joinFrom " " true (((q.clauses d).take 4).drop 1)

/-- A fragment has the rows of a query, which may have lost the blanks at their end, after the
parameters of the query. -/
def Keeps (d : Dialect) (q : Query) (f : Fragment) : Prop :=
  ∃ before kept after, f = before ++ kept ++ after ∧
    (kept = q.rows d ∨ kept = trimEnd (q.rows d)) ∧ q.params ∈ supplies before

/-- The text of a query before its rows. -/
def head (d : Dialect) (q : Query) : Fragment :=
  .supply q.params :: ((if !q.unions.isEmpty && d.parenthesizesUnion then [.text "("] else []) ++
    joinNonBlank " " ((q.clauses d).take 1))

/-- The first four clauses of a query are its head and its rows. -/
lemma upTo_eq (d : Dialect) (q : Query) : q.upTo d 4 = q.head d ++ q.rows d := by
  have hstarted : ((q.clauses d).take 1).any (!·.isBlank) = true := rfl
  have hclauses : (q.clauses d).take 4 =
    (q.clauses d).take 1 ++ ((q.clauses d).take 4).drop 1 := rfl
  rw [upTo, hclauses, joinNonBlank, joinFrom_append, hstarted]
  simp [head, rows, joinNonBlank]

/-- A query has its rows. -/
lemma keeps_fragment (d : Dialect) (q : Query) : q.Keeps d (q.fragment d) := by
  have hparams : q.params ∈ supplies (q.head d) := by simp [head]
  obtain ⟨start, hwhole, hstart⟩ := exists_trimEnd_append (q.upTo d 4) (q.onwards d 4)
  rw [fragment_eq_append d q (n := 4) (by decide), hwhole]
  rw [upTo_eq] at hstart
  rcases hstart with rfl | rfl
  · exact ⟨_, _, _, rfl, .inl rfl, hparams⟩
  · obtain ⟨before, hbefore, heq⟩ := exists_trimEnd_append (q.head d) (q.rows d)
    rw [hbefore]
    refine ⟨_, _, _, rfl, .inr rfl, ?_⟩
    rcases heq with rfl | rfl
    · exact hparams
    · rwa [supplies_trimEnd]

/-- What is put around the rows of a query does not change them. -/
lemma Keeps.around {f : Fragment} (h : q.Keeps d f) (before after : Fragment) :
    q.Keeps d (before ++ f ++ after) := by
  obtain ⟨start, kept, rest, rfl, hkept, hparams⟩ := h
  refine ⟨before ++ start, kept, rest ++ after, by simp, hkept, ?_⟩
  rw [supplies_append]
  exact List.mem_append_right _ hparams

/-! ### A query around a query -/

/-- The text before the query that an aggregate is taken over. -/
def opening (e : String) : Fragment :=
  [.supply ∅, .text "SELECT", .text " ", .supply ∅, .text e, .text " ", .text "FROM ", .text "("]

/-- The text after the query that an aggregate is taken over. -/
def closing (d : Dialect) : Fragment := [.text ")", .text (" " ++ d.quoteTable "c")]

/-- The query of an aggregate around another query. -/
def enclosing (q : Query) (e : String) : Query :=
  (Query.empty.selectExpr (.ofSql e) none).fromQuery q "c"

lemma scalarQuery_of_needsWrapping (h : q.needsWrapping = true) (e : String) :
    q.scalarQuery e = q.enclosing e := if_pos h

/-- Around a query, an aggregate is written as a query with a single source and nothing else. -/
lemma clauses_enclosing (d : Dialect) (q : Query) (e : String) :
    (q.enclosing e).clauses d = [[.text "SELECT", .text " ", .supply ∅, .text e],
      .text "FROM " :: .text "(" :: (q.fragment d ++ closing d), [], [], [], [], [],
      [.text ""]] := by
  simp [clauses, enclosing, Query.empty, fromQuery, selectExpr, Fragment.distinct, selectModifier,
    selectList, selectFragments, Selectable.fragment, Fragment.expr, Expression.ofSql, listClause,
    tableFragments, TableRef.fragment, TableSource.fragment, joinFragments, clause, filterFragment,
    groupingFragments, Fragment.orderBy, Fragment.join, Fragment.isBlank, closing, bracket,
    after]

/-- Around the query stands nothing but a SELECT of the aggregate. -/
lemma fragment_enclosing (d : Dialect) (q : Query) (e : String) :
    (q.enclosing e).fragment d = opening e ++ q.fragment d ++ closing d := by
  have hwhole : (q.enclosing e).withUnions d =
      (opening e).tail ++ q.fragment d ++ closing d ++ [.text ""] := by
    have hsimple : (q.enclosing e).withUnions d =
      joinNonBlank " " ((q.enclosing e).clauses d) := rfl
    rw [hsimple, clauses_enclosing]
    simp [joinNonBlank, joinFrom, Fragment.isBlank, Piece.isBlank, opening]
  have hclosing : trimEnd (closing d) = closing d := by cases d <;> rfl
  rw [fragment_eq, hwhole, trimEnd_concat_empty,
    trimEnd_append (g := closing d) (by cases d <;> rfl), hclosing]
  rfl

lemma suppliedNames_enclosing (q : Query) (e : String) :
    (q.enclosing e).suppliedNames = q.suppliedNames := by
  simp [enclosing, fromQuery, selectExpr, Query.empty, suppliedNames, namesOfSelect, namesOfTables,
    namesOfJoins, namesOfFilter, namesOfGrouping, namesOfUnions, Selectable.suppliedNames,
    TableSource.suppliedNames, Expression.ofSql]

end Query

/-- A written query in parentheses, with an aggregate before it. -/
def Built.enclose (d : Dialect) (e : String) (out : Built) : Built :=
  { out with sql := "SELECT " ++ e ++ " FROM (" ++ out.sql ++ ") " ++ d.quoteTable "c" }

lemma Binding.write_opening (b : Binding) (e : String) :
    b.write (Query.opening e) = (.ok ("SELECT " ++ e ++ " FROM ("), b) := by
  have hmerge : b.merge ∅ = b := rfl
  have hopening : "SELECT" ++ (" " ++ (e ++ (" " ++ ("FROM " ++ ("(" ++ ""))))) =
      "SELECT " ++ e ++ " FROM (" := by
    simp [String.ext_iff]
  simp only [Query.opening, write, hmerge, Except.map, hopening]

lemma Binding.write_closing (b : Binding) (d : Dialect) :
    b.write (Query.closing d) = (.ok (") " ++ d.quoteTable "c"), b) := by
  have hclosing : ")" ++ (" " ++ d.quoteTable "c" ++ "") = ") " ++ d.quoteTable "c" := by
    simp [String.ext_iff]
  simp only [Query.closing, write, Except.map, hclosing]

namespace Query

variable {d : Dialect} {q : Query} {e : String}

/-- The statement of the query itself stands in the statement of such an aggregate, with the
parameters that it has on its own. -/
lemma build_enclosing (b : Builder) (q : Query) (e : String) :
    b.build (.select (q.enclosing e)) = (b.build (.select q)).map (Built.enclose b.dialect e) := by
  rw [Builder.build, Builder.build, Built.ofFragment, Built.ofFragment, Statement.fragment,
    Statement.fragment, Statement.suppliedNames, Statement.suppliedNames, suppliedNames_enclosing,
    fragment_enclosing, Binding.write_append, Binding.write_append, Binding.write_opening]
  dsimp only
  rcases (((Binding.start b.dialect b.inlineValues).reserve q.suppliedNames).write
    (q.fragment b.dialect)) with ⟨_ | sql, binding⟩
  · rfl
  · simp [Binding.write_closing, Except.map, Built.enclose, Built.of, String.append_assoc]

/-! ### The rows of an aggregate -/

/-- An aggregate has the rows of its query. -/
lemma keeps_scalarQuery (d : Dialect) (q : Query) (e : String) :
    q.Keeps d ((q.scalarQuery e).fragment d) := by
  cases h : q.needsWrapping with
  | true =>
    rw [scalarQuery_of_needsWrapping h, fragment_enclosing]
    exact (q.keeps_fragment d).around _ _
  | false =>
    have hkeeps := (q.scalarQuery e).keeps_fragment d
    have hrows : (q.scalarQuery e).rows d = q.rows d := by
      rw [scalarQuery, if_neg (by simp [h])]
      rfl
    have hparams : (q.scalarQuery e).params = q.params := by
      rw [scalarQuery, if_neg (by simp [h])]
    rwa [Keeps, hrows, hparams] at hkeeps

end Query

end SqlCompose
