import Mathlib
import SqlCompose.Proofs.Truth.Membership
import SqlCompose.Proofs.Refusal.Query

/-!
# Two ways of looking for rows

A dialect that compares tuples looks for rows in a list of tuples; any other one looks for each row
column by column. Without a null in the rows both are the same on every row of a table. A null is
never equal to anything in a comparison of tuples, while column by column it is looked for by a null
check; so with a null the comparison of tuples may be unknown where the other one is not, and this
is the only difference.
-/

namespace SqlCompose

open Fragment Formula Interpretation

/-! ### Less known truth values -/

namespace Truth

/-- A truth value that is unknown or this one. -/
def Approximates (v w : Truth) : Prop := v = unknown ∨ v = w

variable {u v w x : Truth}

lemma Approximates.refl (v : Truth) : v.Approximates v := .inr rfl

lemma Approximates.not (h : v.Approximates w) : v.not.Approximates w.not := by
  rcases h with rfl | rfl
  · exact .inl rfl
  · exact .refl _

lemma Approximates.and (h : u.Approximates v) (h' : w.Approximates x) :
    (u.and w).Approximates (v.and x) := by
  rcases h with rfl | rfl <;> rcases h' with rfl | rfl
  · exact .inl rfl
  · cases w <;> cases v <;> simp [Approximates, Truth.and]
  · cases u <;> cases x <;> simp [Approximates, Truth.and]
  · exact .refl _

lemma Approximates.or (h : u.Approximates v) (h' : w.Approximates x) :
    (u.or w).Approximates (v.or x) := by
  rcases h with rfl | rfl <;> rcases h' with rfl | rfl
  · exact .inl rfl
  · cases w <;> cases v <;> simp [Approximates, Truth.or]
  · cases u <;> cases x <;> simp [Approximates, Truth.or]
  · exact .refl _

variable {β : Type*} {ys : List β} {f g : β → Truth}

/-- If each truth value approximates another, so do the conjunctions. -/
lemma approximates_all (h : ∀ y ∈ ys, (f y).Approximates (g y)) :
    (all (ys.map f)).Approximates (all (ys.map g)) := by
  induction ys with
  | nil => exact .refl _
  | cons y ys ih =>
    rw [List.forall_mem_cons] at h
    exact h.1.and (ih h.2)

lemma approximates_any (h : ∀ y ∈ ys, (f y).Approximates (g y)) :
    (any (ys.map f)).Approximates (any (ys.map g)) := by
  induction ys with
  | nil => exact .refl _
  | cons y ys ih =>
    rw [List.forall_mem_cons] at h
    exact h.1.or (ih h.2)

lemma Approximates.negateIf (negated : Bool) (h : v.Approximates w) :
    (v.negateIf negated).Approximates (w.negateIf negated) := by
  cases negated with
  | false => exact h
  | true => exact h.not

end Truth

/-! ### Rows -/

section Rows

variable {α : Type*} (equal : α → α → Bool) (cell : String → Option α) (given : Value → Option α)

/-- The comparison of the cells of some columns with a row, as tuples. -/
def rowTruth (columns : List String) (row : List Value) : Truth :=
  .all ((columns.zip row).map fun (column, v) => .ofComparison equal (cell column) (given v))

/-- The comparison of the cells of some columns with a row, where a null is looked for. -/
def nullSafeRowTruth (columns : List String) (row : List Value) : Truth :=
  .all ((columns.zip row).map fun (column, v) =>
    if v.isNull then .ofBool (cell column).isNone else .ofComparison equal (cell column) (given v))

variable {equal cell given} {columns : List String} {row : List Value}

/-- The comparison with a null is unknown, whatever the null check says. -/
lemma rowTruth_approximates (hnull : given .null = none) :
    (rowTruth equal cell given columns row).Approximates
      (nullSafeRowTruth equal cell given columns row) := by
  apply Truth.approximates_all
  rintro ⟨column, v⟩ -
  cases v with
  | null =>
    left
    dsimp only
    rw [hnull]
    cases cell column <;> rfl
  | _ => exact .refl _

/-- Without a null in the row both comparisons are the same. -/
lemma rowTruth_eq_nullSafe (h : .null ∉ row) :
    rowTruth equal cell given columns row = nullSafeRowTruth equal cell given columns row := by
  unfold rowTruth nullSafeRowTruth
  congr 1
  apply List.map_congr_left
  rintro ⟨column, v⟩ hmem
  cases v with
  | null => exact absurd (List.of_mem_zip hmem).2 h
  | _ => rfl

end Rows

/-! ### The two forms -/

section Forms

variable {α : Type*} {S : Interpretation α} {cell : String → Option α} {given : Value → Option α}
  {d : Dialect} {columns : List String} {rows : List (List Value)} {row : List Value}

/-- Operands that are joined with commas are read one by one. -/
lemma items?_textJoin {ss : List String} {iss : List (List Item)}
    (h : List.Forall₂ (fun s is => d.items? s = some is) ss iss) :
    d.items? (Text.join ", " ss) = some ([Item.comma].intercalate iss) := by
  unfold Text.join
  induction h with
  | nil => cases d <;> rfl
  | @cons s is ss iss hs hrest ih =>
    cases hrest with
    | nil => rwa [String.intercalate_singleton, List.intercalate_singleton]
    | @cons t js ss iss ht hrest =>
      have hcomma : d.items? ", " = some [Item.comma] := by cases d <;> rfl
      have hfirst := Dialect.items?_append hs hcomma (.inr (by decide))
      rw [String.intercalate_cons_cons, List.intercalate_cons_cons]
      exact Dialect.items?_append hfirst ih (.inl (endsApart_append (by decide) (by decide)))

/-- The columns of a row that is as wide as they are have cells. -/
lemma zip_ne_nil (hne : columns ≠ []) (hwidth : row.length = columns.length) :
    columns.zip row ≠ [] := by
  have hpos := List.length_pos_of_ne_nil hne
  apply List.ne_nil_of_length_pos
  rw [List.length_zip, hwidth]
  omega

/-- Each column is read as its cell, without a comma. -/
lemma exists_items_columns
    (h : ∀ column ∈ columns, S.ReadsColumn d (d.quoteColumn column) (cell column)) :
    ∃ iss, List.Forall₂ (fun s is => d.items? s = some is) (columns.map d.quoteColumn) iss ∧
      (∀ is ∈ iss, Item.comma ∉ is) ∧ iss.map S.denote = columns.map cell := by
  induction columns with
  | nil => exact ⟨[], .nil, by simp, rfl⟩
  | cons column columns ih =>
    rw [List.forall_mem_cons] at h
    obtain ⟨is, his, hcolumn, hdenote⟩ := h.1
    obtain ⟨iss, hiss, hcomma, hdenotes⟩ := ih h.2
    refine ⟨is :: iss, .cons his hiss, ?_, ?_⟩
    · rw [List.forall_mem_cons]
      exact ⟨hcolumn.noComma, hcomma⟩
    · rw [List.map_cons, List.map_cons, hdenote, hdenotes]

/-- The columns are read as the tuple of their cells. -/
lemma readsTuple_columnTuple (hne : columns ≠ [])
    (h : ∀ column ∈ columns, S.ReadsColumn d (d.quoteColumn column) (cell column)) :
    S.ReadsTuple d (columnTuple d columns) (columns.map cell) := by
  match columns with
  | [column] => exact (h column List.mem_cons_self).readsTuple
  | first :: second :: columns =>
    obtain ⟨iss, hiss, hcomma, hdenotes⟩ := exists_items_columns h
    have hlength : iss.length = columns.length + 2 := by
      have := hiss.length_eq
      simpa using this.symm
    have hjoin := items?_textJoin hiss
    refine ⟨_, Dialect.items?_parens hjoin, ⟨⟨?_, by simp, ?_⟩, ?_⟩, ?_⟩
    · simp [Item.isPlain, Item.isKeyword]
    · simp [Item.isKeyword]
    · simp [Item.isOperator, Item.isKeyword]
    · rw [denoteAll_group (by rintro rfl; simp at hlength) hcomma ?_ (items?_flatMap_tokens hjoin),
        hdenotes]
      rintro is rfl
      simp at hlength

/-- The list of rows, as the members that it is read as. -/
lemma exists_items_tuples (hne : columns ≠ []) (hrows : rows ≠ [])
    (hwidth : ∀ row ∈ rows, row.length = columns.length) {b : Binding} (hb : b.dialect = d)
    (hsees : S.Sees d given (b.placed (bracket (tuples columns rows)))) :
    ∃ ts inside gs, d.items? (b.textOf (bracket (tuples columns rows))) = some [.group ts inside] ∧
      Saying.among? [.group ts inside] = some (.among gs) ∧
      List.Forall₂ (fun g row => S.denoteAll g = row.map given) gs rows := by
  have htuples : List.Forall₂ (fun f row => error? f = none ∧ ∀ b : Binding, b.dialect = d →
      S.Sees d given (b.placed f) → ∃ is, d.items? (b.textOf f) = some is ∧
        (Item.comma ∉ is ∧ S.denoteAll is = row.map given))
      (rows.map fun row => bracket (slots (columns.zip row))) rows := by
    rw [List.forall₂_map_left_iff]
    refine List.forall₂_same.mpr fun row hrow => ⟨?_, fun b hb hsees => ?_⟩
    · exact (error?_bracket _).mpr (error?_slots _)
    · have hvalues : (columns.zip row).map Prod.snd = row := List.map_snd_zip (hwidth row hrow).le
      obtain ⟨ts, inside, hitems, hdenote⟩ :=
        exists_items_row (zip_ne_nil hne (hwidth row hrow)) hb hsees
      refine ⟨_, hitems, by simp [Item.comma], ?_⟩
      calc S.denoteAll [.group ts inside]
          = ((columns.zip row).map Prod.snd).map given := by rw [hdenote, List.map_map]; rfl
        _ = row.map given := by rw [hvalues]
  have herror : error? (tuples columns rows) = none := by
    rw [tuples, error?_join]
    intro f hf
    obtain ⟨row, -, rfl⟩ := List.mem_map.mp hf
    exact (error?_bracket _).mpr (error?_slots _)
  rw [Binding.placed_bracket herror] at hsees
  obtain ⟨gs, hgs, hall⟩ := exists_items_join htuples hb hsees
  obtain ⟨hcomma, hdenotes⟩ := (List.forall₂_and_left gs rows).mp hall
  have hnil : gs ≠ [] := by
    rintro rfl
    exact hrows (List.forall₂_nil_left_iff.mp hall)
  exact ⟨_, _, gs, items?_textOf_bracket herror hgs,
    among?_group hnil hcomma (items?_flatMap_tokens hgs), hdenotes⟩

/-- The tuple of the columns is compared with each row. -/
lemma says_inRowValues (hne : columns ≠ []) (hrows : rows ≠ [])
    (hwidth : ∀ row ∈ rows, row.length = columns.length)
    (h : ∀ column ∈ columns, S.ReadsColumn d (d.quoteColumn column) (cell column))
    (negated : Bool) :
    Says S given d (inRowValues d columns rows negated)
      (.negateIf negated (.any (rows.map (rowTruth S.equal cell given columns)))) := by
  have htruth (row : List Value) : Truth.all (List.zipWith (.ofComparison S.equal)
      (columns.map cell) (row.map given)) = rowTruth S.equal cell given columns row := by
    rw [List.zipWith_map, ← List.map_uncurry_zip_eq_zipWith]
    rfl
  apply says_among (readsTuple_columnTuple hne h)
  intro b hb hsees
  obtain ⟨ts, inside, gs, hitems, hamong, hgs⟩ := exists_items_tuples hne hrows hwidth hb hsees
  refine ⟨ts, inside, gs, hitems, hamong, ?_⟩
  have hdenotes : List.Forall₂ (fun g ys => S.denoteAll g = ys) gs (rows.map (List.map given)) :=
    List.forall₂_map_right_iff.mpr hgs
  have hwidths : ∀ ys ∈ rows.map (List.map given), ys.length = (columns.map cell).length := by
    rw [List.forall_mem_map]
    intro row hrow
    rw [List.length_map, List.length_map, hwidth row hrow]
  have hrowTruths : ((fun ys => Truth.all (List.zipWith (.ofComparison S.equal)
      (columns.map cell) ys)) ∘ List.map given) = rowTruth S.equal cell given columns :=
    funext htruth
  rw [says?_among hdenotes hwidths, List.map_map, hrowTruths]

/-- The columns are compared with a row one by one, and a null is looked for. -/
lemma says_equalsRow (hne : columns ≠ []) (hwidth : row.length = columns.length)
    (h : ∀ column ∈ columns, S.ReadsColumn d (d.quoteColumn column) (cell column)) :
    Says S given d (equalsRow d columns row)
      (nullSafeRowTruth S.equal cell given columns row) := by
  have hcells : List.Forall₂ (fun f v => error? f = none ∧ Says S given d f v)
      ((columns.zip row).map fun (column, v) =>
        if v.isNull then [Piece.text (d.quoteColumn column ++ " IS NULL")]
        else [.text (d.quoteColumn column ++ "="), .slot column v])
      ((columns.zip row).map fun (column, v) =>
        if v.isNull then .ofBool (cell column).isNone
        else .ofComparison S.equal (cell column) (given v)) := by
    rw [List.forall₂_map_left_iff, List.forall₂_map_right_iff]
    refine List.forall₂_same.mpr ?_
    rintro ⟨column, v⟩ hmem
    have hq := h column (List.of_mem_zip hmem).1
    dsimp only
    split_ifs
    · exact ⟨rfl, says_isNull hq⟩
    · exact ⟨rfl, says_equals hq column v⟩
  exact says_join_and (by simpa using zip_ne_nil hne hwidth) hcells

/-- Each row is compared column by column. -/
lemma says_inRowsExpanded (hne : columns ≠ []) (hrows : rows ≠ [])
    (hwidth : ∀ row ∈ rows, row.length = columns.length)
    (h : ∀ column ∈ columns, S.ReadsColumn d (d.quoteColumn column) (cell column))
    (negated : Bool) :
    Says S given d (inRowsExpanded d columns rows negated)
      (.negateIf negated (.any (rows.map (nullSafeRowTruth S.equal cell given columns)))) := by
  match rows with
  | [] => exact absurd rfl hrows
  | [row] =>
    have hmeaning : Says S given d (equalsRow d columns row)
        (nullSafeRowTruth S.equal cell given columns row) :=
      says_equalsRow hne (hwidth row List.mem_cons_self) h
    rw [List.map_singleton, Truth.any_cons, Truth.any_nil, Truth.or_no]
    cases negated with
    | false => exact hmeaning
    | true => exact hmeaning.not (error?_equalsRow d columns row)
  | row :: row' :: rows =>
    have hbrackets : List.Forall₂ (fun f v => error? f = none ∧ Says S given d f v)
        (((row :: row' :: rows).map (equalsRow d columns)).map bracket)
        ((row :: row' :: rows).map (nullSafeRowTruth S.equal cell given columns)) := by
      rw [List.map_map, List.forall₂_map_left_iff, List.forall₂_map_right_iff]
      refine List.forall₂_same.mpr fun r hr => ?_
      have herror := error?_equalsRow d columns r
      have hmeaning : Says S given d (equalsRow d columns r)
          (nullSafeRowTruth S.equal cell given columns r) := says_equalsRow hne (hwidth r hr) h
      exact ⟨(error?_bracket _).mpr herror, hmeaning.bracket herror⟩
    have herror : error? (join " OR "
        (((row :: row' :: rows).map (equalsRow d columns)).map bracket)) = none := by
      rw [error?_join]
      intro f hf
      obtain ⟨g, hg, rfl⟩ := List.mem_map.mp hf
      obtain ⟨r, hr, rfl⟩ := List.mem_map.mp hg
      exact (error?_bracket _).mpr (error?_equalsRow d columns r)
    have hany := saysAny_join_or (by simp) hbrackets
    cases negated with
    | false => exact hany.bracket herror
    | true => exact hany.not herror

/-- What a membership in rows is where tuples are compared, and where columns are. -/
def rowsTruth (tuples negated : Bool) (equal : α → α → Bool) (cell : String → Option α)
    (given : Value → Option α) (columns : List String) (rows : List (List Value)) : Truth :=
  .negateIf negated (.any (rows.map fun row =>
    if tuples then rowTruth equal cell given columns row
    else nullSafeRowTruth equal cell given columns row))

/-- The text of a membership in rows, as the dialect writes it. -/
lemma value?_inRows (hne : columns ≠ []) (hwidth : ∀ row ∈ rows, row.length = columns.length)
    (h : ∀ column ∈ columns, S.ReadsColumn d (d.quoteColumn column) (cell column))
    {negated : Bool} {b : Binding} (hb : b.dialect = d)
    (hsees : S.Sees d given (b.placed (inRows d columns rows negated))) :
    S.value? d (b.textOf (inRows d columns rows negated)) =
      some (rowsTruth d.hasRowValueIn negated S.equal cell given columns rows) := by
  have hfind : rows.find? (fun row => row.length != columns.length) = none := by
    simpa using hwidth
  unfold inRows at hsees ⊢
  rw [hfind] at hsees ⊢
  dsimp only at hsees ⊢
  by_cases hrows : rows = []
  · subst hrows
    cases negated with
    | true => rfl
    | false => exact says_falsity.value?_textOf hb hsees
  · have hempty : rows.isEmpty = false := by simpa using hrows
    rw [hempty, if_neg (by decide)] at hsees ⊢
    cases htuples : d.hasRowValueIn with
    | true =>
      rw [htuples, if_pos rfl] at hsees
      exact (says_inRowValues hne hrows hwidth h negated).value?_textOf hb hsees
    | false =>
      rw [htuples, if_neg (by decide)] at hsees
      exact (says_inRowsExpanded hne hrows hwidth h negated).value?_textOf hb hsees

end Forms

end SqlCompose
