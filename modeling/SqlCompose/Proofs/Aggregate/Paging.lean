import Mathlib
import SqlCompose.Connection.Query
import SqlCompose.Proofs.Aggregate.Ink
import SqlCompose.Proofs.Aggregate.Rows
import SqlCompose.Proofs.Compound.Query
import SqlCompose.Proofs.Refusal.Query

/-!
# Aggregates over pages

An aggregate that is the query with another SELECT list has lost the ordering and the limits of the
query. An aggregate around the query has not: it is taken over one page of the rows. Its statement
is then another one than without ordering and limits, since they have ink.
-/

namespace SqlCompose

open Fragment

variable {b : Builder} {out out' : Built} {q : Query} {d : Dialect} {e : String}

/-- A query without its own ordering and limits. -/
def Query.unpaged (q : Query) : Query := { q with orderBy := [], limit := none, offset := none }

/-! ### The ink of ordering and limits -/

/-- A limit that is written has a keyword, and so has ink. -/
lemma ink_limitClause_pos {limit offset : Option ℕ}
    (h : (d.limitClause limit offset).isEmpty = false) :
    0 < Text.ink (d.limitClause limit offset) := by
  obtain ⟨keyword, hkeyword, t, ht⟩ := startsEnding_limitClause h
  have hletters : 0 < Text.ink keyword := by
    simp only [endingKeywords, List.mem_cons, List.not_mem_nil, or_false] at hkeyword
    rcases hkeyword with rfl | rfl | rfl <;> decide
  rw [ht, Text.ink_append]
  omega

namespace Query

lemma ink_orderBy_pos {b : Binding} {items : List OrderItem} (h : items.isEmpty = false) :
    0 < b.ink (Fragment.orderBy d items) := by
  have hkeyword : 0 < Text.ink ("ORDER BY" ++ " ") := by decide
  rw [Fragment.orderBy, if_neg (by simp [h]), after, Binding.ink_cons, Binding.inkOfPiece]
  omega

lemma ink_simple (b : Binding) (q : Query) :
    b.ink (q.simple d) = ((q.clauses d).map b.ink).sum := Binding.ink_joinFrom (by decide) _ _

/-- The ink of a query is its ink without ordering and limits, and the ink of these. -/
lemma ink_fragment (b : Binding) (d : Dialect) (q : Query) :
    b.ink (q.fragment d) = b.ink (q.unpaged.fragment d) +
      (b.ink (Fragment.orderBy d q.orderBy) + Text.ink (d.limitClause q.limit q.offset)) := by
  have hsimple : b.ink (q.simple d) = b.ink (q.unpaged.simple d) +
      (b.ink (Fragment.orderBy d q.orderBy) + Text.ink (d.limitClause q.limit q.offset)) := by
    rw [ink_simple, ink_simple]
    simp [clauses, unpaged, Fragment.orderBy, Binding.inkOfPiece]
    omega
  have hunions : b.ink (q.withUnions d) = b.ink (q.unpaged.withUnions d) +
      (b.ink (Fragment.orderBy d q.orderBy) + Text.ink (d.limitClause q.limit q.offset)) := by
    have hsame : q.unpaged.unions = q.unions := rfl
    rw [withUnions, withUnions, hsame]
    split_ifs
    · exact hsimple
    · simp only [bracket, Binding.ink_append, Binding.ink_cons, hsimple]
      omega
    · simp only [Binding.ink_append, Binding.ink_cons, hsimple]
      omega
  rw [fragment_eq, fragment_eq, Binding.ink_cons, Binding.ink_cons, Binding.ink_trimEnd,
    Binding.ink_trimEnd, hunions]
  exact (Nat.add_assoc ..).symm

/-- An ordering or a limit adds ink to a query. -/
lemma ink_fragment_lt (b : Binding) (h : q.isOrdered d = true) :
    b.ink (q.unpaged.fragment d) < b.ink (q.fragment d) := by
  rw [isOrdered, Bool.or_eq_true, Bool.not_eq_true', Bool.not_eq_true'] at h
  rw [ink_fragment b d q]
  rcases h with h | h
  · have hpos := ink_orderBy_pos (b := b) (d := d) h
    omega
  · have hpos := ink_limitClause_pos h
    omega

/-! ### Refusals -/

/-- The first error of a fragment is the first of its effects. -/
lemma error?_effects_eq (f : Fragment) : error? (effects f) = error? f := by
  induction f with
  | nil => rfl
  | cons piece f ih =>
    cases piece with
    | refusal e => rfl
    | _ => exact ih

/-- Ordering and limits refuse nothing. -/
lemma error?_fragment_unpaged (d : Dialect) (q : Query) :
    error? (q.unpaged.fragment d) = error? (q.fragment d) := by
  have hclauses : (q.clauses d).flatMap effects =
      ((q.clauses d).take 6).flatMap effects ++ effects (Fragment.orderBy d q.orderBy) := by
    simp [clauses]
  have hunpaged : (q.unpaged.clauses d).flatMap effects =
      ((q.clauses d).take 6).flatMap effects ++ effects (Fragment.orderBy d []) := by
    simp [clauses, unpaged]
  rw [← error?_effects_eq, ← error?_effects_eq (q.fragment d), fragment_eq, fragment_eq,
    effects_supply_cons, effects_supply_cons, effects_trimEnd, effects_trimEnd,
    effects_withUnions, effects_withUnions, List.flatMap_append, List.flatMap_append, hclauses,
    hunpaged]
  simp only [error?_supply_cons, error?_append, error?_effects_eq, error?_orderBy]
  rfl

/-! ### Queries without ordering and limits -/

/-- Without an ordering and a limit of its own a query is written as it is. -/
lemma fragment_unpaged (h : q.isOrdered d = false) : q.unpaged.fragment d = q.fragment d := by
  rw [isOrdered, Bool.or_eq_false_iff, Bool.not_eq_false', Bool.not_eq_false', List.isEmpty_iff,
    String.isEmpty_iff] at h
  have hclauses : q.unpaged.clauses d = q.clauses d := by
    simp [clauses, unpaged, h.1, h.2]
  rw [fragment_eq, fragment_eq, withUnions, withUnions, simple, simple, hclauses]
  rfl

lemma suppliedNames_unpaged (h : q.orderBy = []) : q.unpaged.suppliedNames = q.suppliedNames := by
  obtain ⟨select, selectOption, distinct, tables, joins, filter, groupBy, having, orderBy, unions,
    limit, offset, indexBy, params⟩ := q
  obtain rfl : orderBy = [] := h
  rfl

/-! ### Aggregates -/

/-- An aggregate over a query is taken over a page of its rows: it is written around the query,
which is written with an ordering or with limits. -/
structure IsPaged (b : Builder) (q : Query) : Prop where
  wrapped : q.needsWrapping = true
  ordered : q.isOrdered b.dialect = true
  written : ∃ out, b.build (.select q) = .ok out

/-- An aggregate that is taken without a sub-query drops the ordering and the limits anyway. -/
lemma scalarQuery_unpaged (h : q.needsWrapping = false) (e : String) :
    q.unpaged.scalarQuery e = q.scalarQuery e := by
  have hunpaged : q.unpaged.needsWrapping = false := h
  rw [scalarQuery, scalarQuery, if_neg (by simp [hunpaged]), if_neg (by simp [h])]
  rfl

/-- A query that is not written is refused alike without ordering and limits. -/
lemma build_unpaged_of_error {err : QueryError} (h : b.build (.select q) = .error err) :
    b.build (.select q.unpaged) = .error err := by
  have hwrite (q : Query) : b.build (.select q) = b.write (.statement (.select q)) := rfl
  have hfragment (q : Query) : Draft.fragment b.dialect b.schema (.statement (.select q)) =
    q.fragment b.dialect := rfl
  rw [hwrite, Builder.write_eq_match, hfragment] at h
  rw [hwrite, Builder.write_eq_match, hfragment, error?_fragment_unpaged]
  cases herror : error? (q.fragment b.dialect) with
  | none => simp [herror] at h
  | some e => simpa [herror] using h

lemma build_unpaged (h : q.isOrdered b.dialect = false) :
    b.build (.select q.unpaged) = b.build (.select q) := by
  have horder : q.orderBy = [] := by
    rw [isOrdered, Bool.or_eq_false_iff, Bool.not_eq_false', List.isEmpty_iff] at h
    exact h.1
  rw [Builder.build, Builder.build, Statement.fragment, Statement.fragment, fragment_unpaged h,
    Statement.suppliedNames, Statement.suppliedNames, suppliedNames_unpaged horder]

/-- An aggregate that is not over a page does not depend on ordering and limits. -/
lemma build_scalarQuery_unpaged (h : ¬q.IsPaged b) (e : String) :
    b.build (.select (q.scalarQuery e)) = b.build (.select (q.unpaged.scalarQuery e)) := by
  cases hwrapping : q.needsWrapping with
  | false => rw [scalarQuery_unpaged hwrapping]
  | true =>
    rw [scalarQuery_of_needsWrapping hwrapping,
      scalarQuery_of_needsWrapping (q := q.unpaged) hwrapping, build_enclosing, build_enclosing]
    congr 1
    cases hordered : q.isOrdered b.dialect with
    | false => exact (build_unpaged hordered).symm
    | true =>
      cases hbuild : b.build (.select q) with
      | error err => exact (build_unpaged_of_error hbuild).symm
      | ok out => exact absurd ⟨hwrapping, hordered, out, hbuild⟩ h

/-- The text of an aggregate over a page has the ink of the ordering and the limits. -/
lemma sql_ne_of_isPaged (h : q.IsPaged b)
    (hpaged : b.build (.select (q.scalarQuery e)) = .ok out)
    (hunpaged : b.build (.select (q.unpaged.scalarQuery e)) = .ok out') : out.sql ≠ out'.sql := by
  have hlt := ink_fragment_lt (Binding.start b.dialect b.inlineValues) h.ordered
  have hink := Builder.ink_of_write (s := .statement (.select (q.scalarQuery e))) hpaged
  have hink' := Builder.ink_of_write (s := .statement (.select (q.unpaged.scalarQuery e))) hunpaged
  intro hsql
  -- around the two queries stands the same, so they would have the same ink
  rw [hsql, hink', Draft.fragment, Draft.fragment, Statement.fragment, Statement.fragment,
    scalarQuery_of_needsWrapping h.wrapped,
    scalarQuery_of_needsWrapping (q := q.unpaged) h.wrapped, fragment_enclosing, fragment_enclosing]
    at hink
  simp only [Binding.ink_append] at hink
  omega

lemma exists_build_scalarQuery (h : q.IsPaged b) (e : String) :
    ∃ out, b.build (.select (q.scalarQuery e)) = .ok out := by
  obtain ⟨out, hout⟩ := h.written
  rw [scalarQuery_of_needsWrapping h.wrapped, build_enclosing, hout]
  exact ⟨_, rfl⟩

/-! ### Counting -/

/-- What is sent for a written count. -/
def countRequest (c : Connection) (out : Built) : Request (List Row) Int64 :=
  ((Command.ofBuilt c out).scalar.reporting (c.builtEvent out)).map
    fun v => (v.bind Value.asInt?).getD 0

/-- A count is the aggregate `COUNT`, sent for a single cell. -/
lemma count_eq (c : Connection) (q : Query) (e : String) :
    q.count c e = (c.builder.build (.select (q.scalarQuery ("COUNT(" ++ e ++ ")")))).map
      (countRequest c) := by
  unfold count scalar ask
  cases c.builder.build (.select (q.scalarQuery ("COUNT(" ++ e ++ ")"))) <;> rfl

/-- The text of a count can be told from what is sent. -/
lemma sql_eq_of_countRequest {c : Connection} (h : countRequest c out = countRequest c out') :
    out.sql = out'.sql := by
  have hevents : c.builtEvent out :: _ = c.builtEvent out' :: _ := congrArg Request.events h
  have hfields : (c.builtEvent out).fields = (c.builtEvent out').fields :=
    congrArg Event.fields (List.cons.inj hevents).1
  simp only [Connection.builtEvent, Event.built, List.cons.injEq, Prod.mk.injEq,
    FieldValue.text.injEq] at hfields
  exact hfields.2.2.2.1.2

/-- The statement of an aggregate, and what a count sends, does not depend on the ordering and the
limits of the query exactly if the aggregate is not over a page. It always has the rows of the
query, with what stands for their values. -/
theorem build_scalarQuery_unpaged_iff (c : Connection) (q : Query) (e : String) :
    (c.builder.build (.select (q.scalarQuery e)) =
        c.builder.build (.select (q.unpaged.scalarQuery e)) ↔ ¬q.IsPaged c.builder) ∧
      (q.count c e = q.unpaged.count c e ↔ ¬q.IsPaged c.builder) ∧
      ∀ out, c.builder.build (.select (q.scalarQuery e)) = .ok out → out.HasRows c.builder q := by
  refine ⟨⟨?_, ?_⟩, ⟨?_, ?_⟩, fun out => hasRows_of_build⟩
  · intro hsame hpaged
    obtain ⟨out, hout⟩ := exists_build_scalarQuery hpaged e
    exact sql_ne_of_isPaged hpaged hout (hsame ▸ hout) rfl
  · exact fun h => build_scalarQuery_unpaged h e
  · intro hsame hpaged
    obtain ⟨out, hout⟩ := exists_build_scalarQuery hpaged ("COUNT(" ++ e ++ ")")
    rw [count_eq, count_eq, hout] at hsame
    cases hunpaged : c.builder.build
        (.select (q.unpaged.scalarQuery ("COUNT(" ++ e ++ ")"))) with
    | error err => simp [hunpaged, Except.map] at hsame
    | ok out' =>
      rw [hunpaged] at hsame
      exact sql_ne_of_isPaged hpaged hout hunpaged (sql_eq_of_countRequest (Except.ok.inj hsame))
  · intro h
    rw [count_eq, count_eq, build_scalarQuery_unpaged h]

/-- One of the kinds of some rows. -/
def oneKind : Query :=
  (((Query.empty.selectText "kind").fromText "t").withWhere
    (.compare "a" .eq (.value (.int 7)))).groupByText "kind" |>.withLimit 1

/-- The statement that counts one kind. -/
def oneKindCount : Built :=
  ⟨"SELECT COUNT(*) FROM (SELECT `kind` FROM `t` WHERE `a` = :a1 GROUP BY `kind` LIMIT 1) `c`",
    some (.ofList [("a1", .int 7)])⟩

lemma isPaged_oneKind : oneKind.IsPaged ⟨.sqlite, none, false⟩ where
  wrapped := by rfl
  ordered := by rfl
  written := ⟨_, by rfl⟩

theorem build_scalarQuery_unpaged_iff_oneKind :
    (⟨.sqlite, none, false⟩ : Builder).build (.select (oneKind.scalarQuery "COUNT(*)")) =
        .ok oneKindCount ∧
      oneKind.count ⟨.sqlite, "", none, false⟩ "*" ≠
        oneKind.unpaged.count ⟨.sqlite, "", none, false⟩ "*" ∧
      oneKindCount.HasRows ⟨.sqlite, none, false⟩ oneKind := by
  have hbuild : (⟨.sqlite, none, false⟩ : Builder).build
      (.select (oneKind.scalarQuery "COUNT(*)")) = .ok oneKindCount := by
    rfl
  refine ⟨hbuild, ?_, ?_⟩
  · intro hsame
    exact (build_scalarQuery_unpaged_iff ⟨.sqlite, "", none, false⟩ oneKind "*").2.1.mp hsame
      isPaged_oneKind
  · exact (build_scalarQuery_unpaged_iff ⟨.sqlite, "", none, false⟩ oneKind "COUNT(*)").2.2
      oneKindCount hbuild

end Query

end SqlCompose
