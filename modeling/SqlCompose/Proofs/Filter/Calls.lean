import Mathlib
import SqlCompose.Proofs.Filter.Joined

/-!
# Filters that are given step by step

A query takes two filters, on its rows and on its groups, and both are given in the same way: the
first condition is the filter, each further one is joined to what is there. The clause of a filter
stands between the clauses before it and those after it, and is read as the left fold of its
conditions, each of them read on its own.
-/

namespace SqlCompose

open Fragment Formula

/-- A filter of a query. -/
inductive QueryFilter
  /-- The filter on the rows. -/
  | rows
  /-- The filter on the groups. -/
  | groups

namespace QueryFilter

/-- The condition of a filter. -/
def condition? : QueryFilter → Query → Option Condition
  | rows, q => q.filter
  | groups, q => q.having

def keyword : QueryFilter → String
  | rows => "WHERE"
  | groups => "HAVING"

/-- The number of the clause. -/
def place : QueryFilter → Nat
  | rows => 3
  | groups => 5

lemma place_ne_zero (k : QueryFilter) : k.place ≠ 0 := by cases k <;> decide

/-- Give a query a further condition. -/
def add : QueryFilter → Query → FilterCall → Query
  | rows, q, ⟨true, c⟩ => q.andWhere c
  | rows, q, ⟨false, c⟩ => q.orWhere c
  | groups, q, ⟨true, c⟩ => q.andHaving c
  | groups, q, ⟨false, c⟩ => q.orHaving c

variable {k : QueryFilter} {d : Dialect} {q : Query} {c : Condition}

/-- A filter takes a further condition as a condition alone does. -/
lemma condition?_add (k : QueryFilter) (q : Query) (call : FilterCall) :
    k.condition? (k.add q call) =
      Condition.combine (.joinWith call.conjunction) (k.condition? q) call.condition := by
  obtain ⟨conjunction, c⟩ := call
  cases k <;> cases conjunction <;> rfl

/-- The first condition is the filter, each further one is joined to what is there. -/
lemma condition?_foldl_add {first : FilterCall} (h : k.condition? q = none)
    (calls : List FilterCall) : k.condition? ((first :: calls).foldl k.add q) =
      some (calls.foldl FilterCall.addTo first.condition) := by
  have hlater (q : Query) (c : Condition) (hc : k.condition? q = some c) :
      k.condition? (calls.foldl k.add q) = some (calls.foldl FilterCall.addTo c) := by
    induction calls generalizing q c with
    | nil => exact hc
    | cons call calls ih =>
      refine ih _ _ ?_
      rw [condition?_add, hc]
      rfl
  refine hlater _ _ ?_
  rw [condition?_add, h]
  rfl

/-- The clause of a filter that has a text. -/
lemma onwards_eq (hc : k.condition? q = some c) (hblank : (c.fragment d).isBlank = false) :
    q.onwards d k.place = .text " " :: .text (k.keyword ++ " ") ::
      (c.fragment d ++ q.onwards d (k.place + 1)) := by
  have hdrop : (q.clauses d).drop k.place =
      clause k.keyword (filterFragment d (k.condition? q)) ::
        (q.clauses d).drop (k.place + 1) := by cases k <;> rfl
  have hclause : clause k.keyword (filterFragment d (k.condition? q)) =
      .text (k.keyword ++ " ") :: c.fragment d := by
    rw [hc, filterFragment, clause, hblank]
    rfl
  have hkeyword : Fragment.isBlank (.text (k.keyword ++ " ") :: c.fragment d) = false := by
    cases k <;> rfl
  rw [Query.onwards, hdrop, hclause, joinFrom, hkeyword]
  simp [Query.onwards]

end QueryFilter

namespace Builder

variable {b : Builder} {k : QueryFilter} {q : Query} {c : Condition} {out : Built}

/-- The binding that a query is written from. -/
def queryStart (b : Builder) (q : Query) : Binding := b.startFor (.statement (.select q))

/-- The binding that a filter of a query is written from. -/
def clauseStart (b : Builder) (k : QueryFilter) (q : Query) : Binding :=
  (b.queryStart q).after (q.upTo b.dialect k.place)

/-- This text is the condition of a filter in the text of a query, up to blanks at its end: it
stands after the clauses before it and the keyword, and the rest of the query stands after it. -/
def FiltersWith (b : Builder) (k : QueryFilter) (q : Query) (out : Built) (text : String) : Prop :=
  let rest := (b.clauseStart k q).after (filterFragment b.dialect (k.condition? q))
  ∃ blanks, Text.isBlank blanks = true ∧ out.sql ++ blanks =
    (b.queryStart q).textOf (q.upTo b.dialect k.place) ++
      (" " ++ (k.keyword ++ " " ++ (text ++ rest.textOf (q.onwards b.dialect (k.place + 1)))))

@[simp] lemma clauseStart_dialect : (b.clauseStart k q).dialect = b.dialect :=
  Binding.after_dialect

/-- The filter of a query is written as its condition alone. -/
lemma filtersWith (h : b.build (.select q) = .ok out) (hc : k.condition? q = some c)
    (hblank : (c.fragment b.dialect).isBlank = false) :
    error? (c.fragment b.dialect) = none ∧
      b.FiltersWith k q out ((b.clauseStart k q).textOf (c.fragment b.dialect)) := by
  have hwrite : b.write (.statement (.select q)) = .ok out := h
  have herror : error? (q.fragment b.dialect) = none := error?_eq_none_of_write hwrite
  have hsql : out.sql = (b.queryStart q).textOf (q.fragment b.dialect) := sql_of_write hwrite
  rw [q.fragment_eq_append b.dialect k.place_ne_zero] at herror hsql
  rw [error?_trimEnd] at herror
  rw [Binding.textOf_trimEnd herror] at hsql
  obtain ⟨blanks, hblanks, htext⟩ := Text.exists_trimEnd_append
    ((b.queryStart q).textOf (q.upTo b.dialect k.place ++ q.onwards b.dialect k.place))
  rw [QueryFilter.onwards_eq hc hblank, error?_append, Option.or_eq_none_iff] at herror
  obtain ⟨hbefore, hclause⟩ := herror
  rw [error?_text_cons, error?_text_cons, error?_append, Option.or_eq_none_iff] at hclause
  refine ⟨hclause.1, blanks, hblanks, ?_⟩
  rw [hsql, htext, QueryFilter.onwards_eq hc hblank, Binding.textOf_append hbefore,
    Binding.textOf_text_cons, Binding.textOf_text_cons, Binding.textOf_append hclause.1, hc]
  rfl

/-- The filter of a query to which conditions were added one after the other, in any order of AND
and OR, is read as a formula that is equivalent to the left fold of their formulas. -/
theorem filter_read_as_leftFold {first : FilterCall} {calls : List FilterCall}
    (hnone : k.condition? q = none)
    (hcalls : ∀ call ∈ first :: calls, call.condition.IsJoinable b.dialect)
    (h : b.build (.select ((first :: calls).foldl k.add q)) = .ok out) :
    let filtered := (first :: calls).foldl k.add q
    ∃ text f g, b.FiltersWith k filtered out text ∧ b.dialect.read? text = some f ∧
      (b.clauseStart k filtered).joined? first.condition calls = some g ∧
      ∀ τ : List Token → Truth, f.value τ = g.value τ := by
  intro filtered
  rw [List.forall_mem_cons] at hcalls
  obtain ⟨hfirst, hcalls⟩ := hcalls
  have hcondition : k.condition? filtered =
      some (calls.foldl FilterCall.addTo first.condition) :=
    QueryFilter.condition?_foldl_add hnone calls
  have hjoined := hfirst.foldl_addTo hcalls
  obtain ⟨herror, htext⟩ := filtersWith h hcondition hjoined.readable.isBlank_eq_false
  let start := b.clauseStart k filtered
  have hdialect : start.dialect = b.dialect := clauseStart_dialect
  rw [← hdialect] at hfirst hcalls hjoined herror htext
  obtain ⟨f, hf, hvalue⟩ := hjoined.exists_read? herror
  obtain ⟨f₁, hf₁, hvalue₁⟩ := hfirst.exists_read? (hfirst.error?_foldl_addTo hcalls herror)
  obtain ⟨g, hg, hmeans⟩ := hfirst.exists_leftFold? hcalls herror hvalue₁
  refine ⟨_, f, g, htext, by rwa [← hdialect], ?_, fun τ => (hvalue τ).trans (hmeans τ).symm⟩
  rw [Binding.joined?, hf₁]
  exact hg

/-- A disjunction that is taken over verbatim. -/
def verbatimDisjunction : FilterCall := ⟨true, .raw "x = 1 OR y = 2" ∅⟩

/-- What is joined to it, by AND, by OR and by AND. -/
def alternating : List FilterCall :=
  [⟨true, .compare "a" .eq (.value (.int 1))⟩,
    ⟨false, .hash [("b", .value (.int 2)), ("c", .value .null)]⟩,
    ⟨true, .compare "d" .gt (.value (.int 3))⟩]

lemma build_alternating :
    (⟨.mysql, none, false⟩ : Builder).build (.select
        ((verbatimDisjunction :: alternating).foldl QueryFilter.rows.add
          { Query.empty with tables := [⟨.table "t", none⟩] })) =
      .ok ⟨"SELECT * FROM \x60t\x60 WHERE (((x = 1 OR y = 2) AND \x60a\x60 = :a1) OR " ++
          "(\x60b\x60=:b2 AND \x60c\x60 IS NULL)) AND \x60d\x60 > :d3",
        some (.ofList [("a1", .int 1), ("b2", .int 2), ("d3", .int 3)])⟩ := by
  decide +kernel

theorem filter_read_as_leftFold_alternating :
    let b : Builder := ⟨.mysql, none, false⟩
    let q : Query := { Query.empty with tables := [⟨.table "t", none⟩] }
    let filtered := (verbatimDisjunction :: alternating).foldl QueryFilter.rows.add q
    (∀ call ∈ verbatimDisjunction :: alternating, call.condition.IsJoinable .mysql) ∧
      ∃ out text f g, b.build (.select filtered) = .ok out ∧
        b.FiltersWith .rows filtered out text ∧ b.dialect.read? text = some f ∧
        (b.clauseStart .rows filtered).joined? verbatimDisjunction.condition alternating = some g ∧
        ∀ τ : List Token → Truth, f.value τ = g.value τ := by
  intro b q filtered
  have hcolumn (column : String) (h : IsPlainName column) :
      Dialect.mysql.IsOperand (Dialect.mysql.quoteColumn column) :=
    isOperand_quoteColumn .mysql h
  have ha := hcolumn "a" (by simp [IsPlainName, nameMarks])
  have hb := hcolumn "b" (by simp [IsPlainName, nameMarks])
  have hc := hcolumn "c" (by simp [IsPlainName, nameMarks])
  have hd := hcolumn "d" (by simp [IsPlainName, nameMarks])
  have hhash : (Condition.hash [("b", .value (.int 2)), ("c", .value .null)]).IsReadable
      .mysql := ⟨by simp, by simp [hb, hc, Operand.IsReadable]⟩
  have hcalls : ∀ call ∈ verbatimDisjunction :: alternating,
      call.condition.IsJoinable .mysql := by
    simp only [alternating, List.forall_mem_cons]
    exact ⟨⟨rfl, trivial⟩, ⟨⟨ha, trivial⟩, trivial⟩, ⟨hhash, trivial⟩, ⟨⟨hd, trivial⟩, trivial⟩,
      by simp⟩
  obtain ⟨text, f, g, htext, hf, hg, hmeans⟩ :=
    filter_read_as_leftFold (b := b) (k := .rows) (q := q) rfl hcalls build_alternating
  exact ⟨hcalls, _, text, f, g, build_alternating, htext, hf, hg, hmeans⟩

end Builder

end SqlCompose
