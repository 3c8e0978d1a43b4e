import Mathlib
import SqlCompose.Proofs.Reading.Name
import SqlCompose.Proofs.Truth.Rows

/-!
# Memberships in rows from dialect to dialect

What becomes of one membership in rows where tuples are compared and where columns are. The texts
differ, and so may the names of the columns and the placeholders in them; the cells of the row of
the table, the values and what is equal are the same.
-/

namespace SqlCompose

open Fragment

variable {α : Type*} {d : Dialect}

/-! ### Names of columns -/

/-- The parts of a name are the name of a column. -/
lemma isColumn_of_isNamePart {ts : List Token} (hne : ts ≠ [])
    (h : ∀ t ∈ ts, t.isNamePart = true) : IsColumn (ts.map .token) := by
  have hpart : ∀ i ∈ ts.map Item.token, i.isOperator = false ∧ i ≠ .comma := by
    intro i hi
    obtain ⟨t, ht, rfl⟩ := List.mem_map.mp hi
    have hname := h t ht
    cases t with
    | quoted => exact ⟨rfl, by simp [Item.comma]⟩
    | word cs =>
      obtain rfl : cs = ['.'] := by simpa [Token.isNamePart] using hname
      exact ⟨by decide, by decide⟩
    | symbol c =>
      obtain rfl : c = '*' := by simpa [Token.isNamePart] using hname
      exact ⟨by decide, by decide⟩
  refine ⟨⟨isOperand_of_isNamePart hne h, fun i hi => (hpart i hi).1⟩,
    fun hcomma => (hpart _ hcomma).2 rfl, ?_⟩
  unfold components
  split
  · rename_i heq
    obtain ⟨t, -, -, ht, -⟩ := List.map_eq_cons_iff.mp heq
    simp at ht
  · rfl

/-- A quoted name is read as a column. -/
lemma readsColumn_of_isNamePart {S : Interpretation α} {q : String} {ts : List Token}
    (hts : tokens? d q = some ts) (hne : ts ≠ []) (h : ∀ t ∈ ts, t.isNamePart = true) :
    S.ReadsColumn d q (S.denote (ts.map .token)) :=
  ⟨_, items?_of_isNamePart h hts, isColumn_of_isNamePart hne h, rfl⟩

lemma readsColumn_of_quoted {S : Interpretation α} {q : String} {quote : Quote} {cs : List Char}
    (h : tokens? d q = some [.quoted quote cs]) :
    S.ReadsColumn d q (S.operand [.quoted quote cs]) :=
  readsColumn_of_isNamePart h (by simp) (by simp [Token.isNamePart])

/-! ### Both forms on one row -/

namespace Builder

variable {cell : String → Option α} {given : Value → Option α} {columns : List String}
  {rows : List (List Value)} {negated : Bool}

/-- In the text of a membership in rows, each column is read as its cell and each value, or its
placeholder, as what it is. -/
structure Shows (b : Builder) (S : Interpretation α) (cell : String → Option α)
    (given : Value → Option α) (columns : List String) (rows : List (List Value))
    (negated : Bool) : Prop where
  names : ∀ column ∈ columns, S.ReadsColumn b.dialect (b.dialect.quoteColumn column) (cell column)
  values : S.Sees b.dialect given (b.placed (.condition (.within columns (.rows rows) negated)))

/-- A condition that refuses nothing is written, and its text can be read. -/
lemma exists_condition {b : Builder} {S : Interpretation α} {c : Condition} {v : Truth}
    (herror : error? (c.fragment b.dialect) = none)
    (hvalue : S.value? b.dialect ((b.startFor (.condition c)).textOf (c.fragment b.dialect)) =
      some v) :
    ∃ out, b.condition c = .ok out ∧ S.value? b.dialect out.sql = some v := by
  have hwrite : b.write (.condition c) =
      .ok (.of ((b.startFor (.condition c)).textOf (c.fragment b.dialect))
        ((b.startFor (.condition c)).write (c.fragment b.dialect)).2.params) := by
    rw [write_eq, Draft.fragment, Binding.write_fst_eq_textOf herror]
    rfl
  exact ⟨_, hwrite, hvalue⟩

/-- A membership in rows is written, and its text can be read. -/
lemma exists_condition_rows {b : Builder} {S : Interpretation α} (hne : columns ≠ [])
    (hwidth : ∀ row ∈ rows, row.length = columns.length)
    (h : b.Shows S cell given columns rows negated) :
    ∃ out, b.condition (.within columns (.rows rows) negated) = .ok out ∧
      S.value? b.dialect out.sql =
        some (rowsTruth b.dialect.hasRowValueIn negated S.equal cell given columns rows) := by
  have hfragment : (Condition.within columns (.rows rows) negated).fragment b.dialect =
      inRows b.dialect columns rows negated := by
    have hempty : columns.isEmpty = false := by simpa using hne
    simp [Condition.fragment, hempty]
  have hsees := h.values
  rw [placed, Draft.fragment, hfragment] at hsees
  apply exists_condition
  · rw [hfragment]
    exact error?_inRows.mpr hwidth
  · rw [hfragment]
    exact value?_inRows hne hwidth h.names startFor_dialect hsees

/-- On a row of a table, the comparison of tuples is unknown or has the truth value of the
comparison of columns; without a null among the values both have the same truth value. -/
theorem rows_approximates {b₁ b₂ : Builder} {S₁ S₂ : Interpretation α}
    (htuples : b₁.dialect.hasRowValueIn = true) (hcolumns : b₂.dialect.hasRowValueIn = false)
    (hne : columns ≠ []) (hwidth : ∀ row ∈ rows, row.length = columns.length)
    (hequal : S₁.equal = S₂.equal) (hnull : given .null = none)
    (h₁ : b₁.Shows S₁ cell given columns rows negated)
    (h₂ : b₂.Shows S₂ cell given columns rows negated) :
    ∃ out₁ out₂ v₁ v₂, b₁.condition (.within columns (.rows rows) negated) = .ok out₁ ∧
      b₂.condition (.within columns (.rows rows) negated) = .ok out₂ ∧
      S₁.value? b₁.dialect out₁.sql = some v₁ ∧ S₂.value? b₂.dialect out₂.sql = some v₂ ∧
      (v₁ = .unknown ∨ v₁ = v₂) ∧ ((∀ row ∈ rows, .null ∉ row) → v₁ = v₂) := by
  obtain ⟨out₁, hout₁, hvalue₁⟩ := exists_condition_rows hne hwidth h₁
  obtain ⟨out₂, hout₂, hvalue₂⟩ := exists_condition_rows hne hwidth h₂
  rw [htuples, hequal] at hvalue₁
  rw [hcolumns] at hvalue₂
  refine ⟨out₁, out₂, _, _, hout₁, hout₂, hvalue₁, hvalue₂, ?_, fun hrows => ?_⟩
  · exact (Truth.approximates_any fun row _ => rowTruth_approximates hnull).negateIf negated
  · unfold rowsTruth
    congr 2
    exact List.map_congr_left fun row hrow => rowTruth_eq_nullSafe (hrows row hrow)

/-! ### A row of a table -/

/-- Operands with these contents; every other one is a null. -/
def contentsOf (contents : List (List Token × ℤ)) : Interpretation ℤ where
  operand ts := (([.word ['1']], 1) :: ([.word ['0']], 0) :: contents).lookup ts
  equal := (· == ·)
  one_ne_zero := rfl

/-- The content of an integer. -/
def intContent? : Value → Option ℤ
  | .int n => some n.toInt
  | _ => none

/-- Texts that stand for values, checked one by one. -/
lemma sees_of_check {S : Interpretation ℤ} {placed : List (String × Value)}
    (h : placed.all (fun e => (d.items? e.1).all fun is => S.denote is == intContent? e.2) = true) :
    S.Sees d intContent? placed := by
  intro e he is his
  have hmem := List.all_eq_true.mp h e he
  simpa [his] using hmem

/-- Two columns in the quotes that two dialects share, with the placeholders that are checked. -/
lemma shows_of_check {S : Interpretation ℤ} {x y : Option ℤ} (hd : d = .mysql ∨ d = .sqlite)
    (hx : S.operand [.quoted .back ['a']] = x) (hy : S.operand [.quoted .back ['b']] = y)
    (hcheck : ((Builder.mk d none false).placed
      (.condition (.within ["a", "b"] (.rows rows) false))).all
        (fun e => (d.items? e.1).all fun is => S.denote is == intContent? e.2) = true) :
    (Builder.mk d none false).Shows S (fun column => if column = "a" then x else y) intContent?
      ["a", "b"] rows false := by
  subst hx hy
  constructor
  · rw [List.forall_mem_cons, List.forall_mem_singleton]
    rcases hd with rfl | rfl
    · exact ⟨readsColumn_of_quoted rfl, readsColumn_of_quoted rfl⟩
    · exact ⟨readsColumn_of_quoted rfl, readsColumn_of_quoted rfl⟩
  · exact sees_of_check hcheck

/-- One in column `a` and two in column `b`, and the placeholders of two rows. -/
def oneAndTwo : Interpretation ℤ := contentsOf
  [([.quoted .back ['a']], 1), ([.quoted .back ['b']], 2), ([.word [':', 'a', '1']], 1),
    ([.word [':', 'b', '2']], 2), ([.word [':', 'a', '3']], 3), ([.word [':', 'b', '4']], 4)]

/-- Two rows without a null. -/
def twoRows : List (List Value) := [[.int 1, .int 2], [.int 3, .int 4]]

theorem rows_approximates_oneAndTwo :
    ∃ out₁ out₂, (Builder.mk .mysql none false).condition
        (.within ["a", "b"] (.rows twoRows) false) = .ok out₁ ∧
      (Builder.mk .sqlite none false).condition
        (.within ["a", "b"] (.rows twoRows) false) = .ok out₂ ∧
      oneAndTwo.value? .mysql out₁.sql = some .yes ∧
      oneAndTwo.value? .sqlite out₂.sql = some .yes := by
  have h₁ : (Builder.mk .mysql none false).Shows oneAndTwo _ intContent? ["a", "b"] twoRows false :=
    shows_of_check (.inl rfl) rfl rfl (by rfl)
  have h₂ : (Builder.mk .sqlite none false).Shows oneAndTwo _ intContent? ["a", "b"] twoRows
      false := shows_of_check (.inr rfl) rfl rfl (by rfl)
  obtain ⟨out₁, out₂, v₁, v₂, hout₁, hout₂, hvalue₁, hvalue₂, -, hequal⟩ :=
    rows_approximates rfl rfl (by simp) (by simp [twoRows]) rfl rfl h₁ h₂
  obtain rfl := hequal (by simp [twoRows])
  have hyes : oneAndTwo.value? .mysql out₁.sql = some .yes := by
    obtain rfl := Except.ok.inj hout₁
    rfl
  refine ⟨out₁, out₂, hout₁, hout₂, hyes, ?_⟩
  rw [← hyes, hvalue₁]
  exact hvalue₂

/-- One in column `a`, a null in column `b`, and the placeholders of a row that is the same. -/
def oneAndNull : Interpretation ℤ := contentsOf
  [([.quoted .back ['a']], 1), ([.word [':', 'a', '1']], 1)]

/-- The same row is found column by column, while the comparison of the tuples is unknown. -/
theorem rows_not_always_equal :
    ¬ ∀ (b₁ b₂ : Builder) (S₁ S₂ : Interpretation ℤ) (cell : String → Option ℤ)
      (given : Value → Option ℤ) (columns : List String) (rows : List (List Value))
      (negated : Bool), b₁.dialect.hasRowValueIn = true → b₂.dialect.hasRowValueIn = false →
      columns ≠ [] → (∀ row ∈ rows, row.length = columns.length) → S₁.equal = S₂.equal →
      given .null = none → b₁.Shows S₁ cell given columns rows negated →
      b₂.Shows S₂ cell given columns rows negated →
      ∃ out₁ out₂ v, b₁.condition (.within columns (.rows rows) negated) = .ok out₁ ∧
        b₂.condition (.within columns (.rows rows) negated) = .ok out₂ ∧
        S₁.value? b₁.dialect out₁.sql = some v ∧ S₂.value? b₂.dialect out₂.sql = some v := by
  intro hequal
  obtain ⟨out₁, out₂, v, hout₁, hout₂, hvalue₁, hvalue₂⟩ :=
    hequal ⟨.mysql, none, false⟩ ⟨.sqlite, none, false⟩ oneAndNull oneAndNull _ _ ["a", "b"]
      [[.int 1, .null]] false rfl rfl (by simp) (by simp) rfl rfl
      (shows_of_check (.inl rfl) rfl rfl (by rfl)) (shows_of_check (.inr rfl) rfl rfl (by rfl))
  obtain rfl := Except.ok.inj hout₁
  obtain rfl := Except.ok.inj hout₂
  have hunknown : some Truth.unknown = some v := hvalue₁
  have hyes : some Truth.yes = some v := hvalue₂
  simp [← hunknown] at hyes

end Builder

end SqlCompose
