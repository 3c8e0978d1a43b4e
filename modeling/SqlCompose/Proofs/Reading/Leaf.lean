import Mathlib
import SqlCompose.Fragment.Query
import SqlCompose.Proofs.Reading.Predicate

/-!
# Reading memberships and patterns

Ranges, lists, rows and patterns. Where the columns are operands, each of them is read as a
predicate, whatever its values are: no connective of its own stands outside parentheses but an AND.
-/

namespace SqlCompose.Fragment

open Formula

variable {d : Dialect} {q column : String} {f : Fragment}

/-! ### Ranges -/

/-- A range is a predicate, since its AND belongs to the BETWEEN. -/
lemma isPredicate_between (hq : d.IsOperand q) (column : String) (low high : Value)
    (negated : Bool) :
    IsPredicate d [.text (q ++ if negated then " NOT BETWEEN " else " BETWEEN "),
      .slot column low, .text " AND ", .slot column high] := by
  rintro b rfl
  have hlow := b.isPlain_bind column low
  have hhigh := (b.bind column low).2.isPlain_bind column high
  rw [Binding.bind_snd_dialect] at hhigh
  simp only [Binding.Reads, Binding.textOf_text_cons, Binding.textOf_slot_cons, Binding.textOf_nil,
    String.append_empty]
  cases negated with
  | false =>
    obtain ⟨is, p, his, hreads⟩ := reads_range hq hlow hhigh
    exact ⟨p, is, by rw [← his, String.append_assoc]; rfl, hreads⟩
  | true =>
    have hnot : b.dialect.IsPlain " NOT" := Dialect.isPlain_of_check (by cases b.dialect <;> rfl)
    obtain ⟨is, p, his, hreads⟩ := reads_range (hq.append hnot (by decide)) hlow hhigh
    have hsplit : " NOT BETWEEN " = " NOT" ++ " BETWEEN " := rfl
    exact ⟨p, is, by rw [← his, if_pos rfl, hsplit]; simp only [String.append_assoc], hreads⟩

/-! ### Lists -/

/-- A null check is a predicate. -/
lemma isPredicate_null (hq : d.IsOperand q) (negated : Bool) :
    IsPredicate d [.text (q ++ if negated then " IS NOT NULL" else " IS NULL")] := by
  have hnull : IsPredicate d [.text (q ++ " IS NULL")] :=
    isPredicate_text hq (by cases d <;> rfl) (by decide)
  have hnotNull : IsPredicate d [.text (q ++ " IS NOT NULL")] :=
    isPredicate_text hq (by cases d <;> rfl) (by decide)
  cases negated with
  | false => exact hnull
  | true => exact hnotNull

/-- A predicate of a column, with a look for null where it is needed. -/
lemma isPredicate_withNull (hq : d.IsOperand q) (hf : IsPredicate d f) (herror : f.error? = none)
    (values : List Value) (negated : Bool) :
    IsPredicate d (if values.any Value.isNull then
      bracket (join (if negated then " AND " else " OR ")
        [f, [.text (q ++ if negated then " IS NOT NULL" else " IS NULL")]]) else f) := by
  have hnull := isPredicate_null hq negated
  split
  · have hboth : ∀ g ∈ [f, [.text (q ++ if negated then " IS NOT NULL" else " IS NULL")]],
        error? g = none ∧ IsPredicate d g := by
      simpa [herror] using ⟨hf, hnull⟩
    have herrors := fun g hg => (hboth g hg).1
    cases negated with
    | false =>
      exact (isFormula_join_or (by simp) hboth).bracket ((error?_join _ _).mpr herrors)
    | true =>
      exact (isPredicate_join_and (by simp) hboth).isFormula.bracket ((error?_join _ _).mpr herrors)
  · exact hf

lemma isPredicate_ofEmptyList {negated : Bool} (h : (ofEmptyList negated).isBlank = false) :
    IsPredicate d (ofEmptyList negated) := by
  cases negated with
  | true => simp [ofEmptyList, isBlank] at h
  | false =>
    rintro b rfl
    have hone : b.dialect.IsOperand "1" := Dialect.isOperand_of_check (by cases b.dialect <;> rfl)
    exact isPredicate_text hone (s := "=0") (by cases b.dialect <;> rfl) (by decide) b rfl

/-- A membership in a list is a predicate. -/
lemma isPredicate_inList {values : List Value} {negated : Bool}
    (hq : d.IsOperand (d.quoteColumn column))
    (h : values = [] → (ofEmptyList negated).isBlank = false) :
    IsPredicate d (inList d column values negated) := by
  unfold inList
  dsimp only
  generalize values.filter (!·.isNull) = members
  match members with
  | [] =>
    dsimp only
    split
    · rename_i hempty
      exact isPredicate_ofEmptyList (h (List.isEmpty_iff.mp hempty))
    · exact isPredicate_null hq negated
  | [v] =>
    have hone : IsPredicate d
        [.text (d.quoteColumn column ++ if negated then "<>" else "="), .slot column v] := by
      cases negated with
      | false => exact isPredicate_slot hq (by cases d <;> rfl) (by decide) (by decide) _ _
      | true => exact isPredicate_slot hq (by cases d <;> rfl) (by decide) (by decide) _ _
    exact isPredicate_withNull hq hone rfl values negated
  | v :: w :: vs =>
    have herror :
        error? (join ", " ((v :: w :: vs).map fun v => [Piece.slot column v])) = none := by simp
    have hclosed := isClosed_slots (d := d) column (v :: w :: vs)
    have hall : IsPredicate d
        (.text (d.quoteColumn column ++ if negated then " NOT IN " else " IN ") ::
          bracket (join ", " ((v :: w :: vs).map fun v => [.slot column v]))) := by
      cases negated with
      | false =>
        exact isPredicate_bracket hq (by cases d <;> rfl) (by decide) (by decide) hclosed herror
      | true =>
        exact isPredicate_bracket hq (by cases d <;> rfl) (by decide) (by decide) hclosed herror
    exact isPredicate_withNull hq hall ((error?_bracket _).mpr herror) values negated

/-! ### Rows -/

/-- Several columns make one operand. -/
lemma isOperand_columnTuple {columns : List String} (hne : columns ≠ [])
    (h : ∀ column ∈ columns, d.IsOperand (d.quoteColumn column)) :
    d.IsOperand (columnTuple d columns) := by
  match columns with
  | [column] => exact h column List.mem_cons_self
  | column :: column' :: columns =>
    refine Dialect.isOperand_parens (Dialect.isSome_join fun s hs => ?_)
    obtain ⟨c, hc, rfl⟩ := List.mem_map.mp hs
    exact (h c hc).isPlain.isSome

/-- The values of a row with a comma between neighbours. -/
lemma isClosed_tuple (columns : List String) (row : List Value) :
    error? (join ", " ((columns.zip row).map fun (column, v) => [Piece.slot column v])) = none ∧
      IsClosed d (join ", " ((columns.zip row).map fun (column, v) => [Piece.slot column v])) := by
  have hslots : ∀ f ∈ (columns.zip row).map (fun (column, v) => [Piece.slot column v]),
      error? f = none ∧ IsClosed d f := by
    intro f hf
    obtain ⟨⟨column, v⟩, -, rfl⟩ := List.mem_map.mp hf
    exact ⟨rfl, isClosed_slot column v⟩
  exact ⟨(error?_join _ _).mpr fun f hf => (hslots f hf).1, isClosed_join hslots⟩

/-- The columns of a row compared one by one. -/
lemma isPredicate_equalsRow {columns : List String} {row : List Value} (hne : columns ≠ [])
    (hlength : row.length = columns.length)
    (h : ∀ column ∈ columns, d.IsOperand (d.quoteColumn column)) :
    IsPredicate d (equalsRow d columns row) ∧ error? (equalsRow d columns row) = none := by
  have hpairs : ∀ f ∈ (columns.zip row).map (fun (column, v) =>
      if v.isNull then [.text (d.quoteColumn column ++ " IS NULL")]
      else [.text (d.quoteColumn column ++ "="), .slot column v]),
      error? f = none ∧ IsPredicate d f := by
    intro f hf
    obtain ⟨⟨column, v⟩, hmem, rfl⟩ := List.mem_map.mp hf
    have hq := h column (List.of_mem_zip hmem).1
    dsimp only
    split
    · exact ⟨rfl, isPredicate_text hq (by cases d <;> rfl) (by decide)⟩
    · exact ⟨rfl, isPredicate_slot hq (by cases d <;> rfl) (by decide) (by decide) _ _⟩
  rw [equalsRow]
  refine ⟨isPredicate_join_and ?_ hpairs, (error?_join _ _).mpr fun f hf => (hpairs f hf).1⟩
  have hpos := List.length_pos_of_ne_nil hne
  apply List.ne_nil_of_length_pos
  rw [List.length_map, List.length_zip]
  omega

/-- A comparison of tuples is a predicate. -/
lemma isPredicate_inRowValues {columns : List String} (rows : List (List Value)) (negated : Bool)
    (hne : columns ≠ []) (h : ∀ column ∈ columns, d.IsOperand (d.quoteColumn column)) :
    IsPredicate d (inRowValues d columns rows negated) := by
  have hrows : ∀ f ∈ rows.map (fun row =>
      bracket (join ", " ((columns.zip row).map fun (column, v) => [Piece.slot column v]))),
      error? f = none ∧ IsClosed d f := by
    intro f hf
    obtain ⟨row, -, rfl⟩ := List.mem_map.mp hf
    obtain ⟨herror, hclosed⟩ := isClosed_tuple (d := d) columns row
    exact ⟨(error?_bracket _).mpr herror, hclosed.bracket herror⟩
  have herror := (error?_join ", " _).mpr fun f hf => (hrows f hf).1
  have hq := isOperand_columnTuple hne h
  unfold inRowValues
  cases negated with
  | false =>
    exact isPredicate_bracket hq (by cases d <;> rfl) (by decide) (by decide) (isClosed_join hrows)
      herror
  | true =>
    exact isPredicate_bracket hq (by cases d <;> rfl) (by decide) (by decide) (isClosed_join hrows)
      herror

/-- A comparison of each column is a predicate, with parentheses around each row. -/
lemma isPredicate_inRowsExpanded {columns : List String} {rows : List (List Value)}
    (negated : Bool) (hne : columns ≠ []) (hrows : rows ≠ [])
    (hlength : ∀ row ∈ rows, row.length = columns.length)
    (h : ∀ column ∈ columns, d.IsOperand (d.quoteColumn column)) :
    IsPredicate d (inRowsExpanded d columns rows negated) := by
  have hequals : ∀ f ∈ rows.map (equalsRow d columns), error? f = none ∧ IsPredicate d f := by
    intro f hf
    obtain ⟨row, hrow, rfl⟩ := List.mem_map.mp hf
    exact (isPredicate_equalsRow hne (hlength row hrow) h).symm
  unfold inRowsExpanded
  dsimp only
  split
  · rename_i row hrow
    rw [hrow] at hequals
    obtain ⟨herror, hpredicate⟩ := hequals row List.mem_cons_self
    split
    · exact hpredicate.isFormula.not herror
    · exact hpredicate
  · have hbrackets : ∀ f ∈ (rows.map (equalsRow d columns)).map bracket,
        error? f = none ∧ IsPredicate d f := by
      intro f hf
      obtain ⟨g, hg, rfl⟩ := List.mem_map.mp hf
      obtain ⟨herror, hpredicate⟩ := hequals g hg
      exact ⟨(error?_bracket g).mpr herror, hpredicate.isFormula.bracket herror⟩
    have herror := (error?_join " OR " _).mpr fun f hf => (hbrackets f hf).1
    have hany := isFormula_join_or (by simpa using hrows) hbrackets
    split
    · exact hany.not herror
    · exact hany.bracket herror

/-- However a dialect writes it, a membership in rows is a predicate. -/
lemma isPredicate_inRows {columns : List String} (rows : List (List Value)) {negated : Bool}
    (hne : columns ≠ []) (h : ∀ column ∈ columns, d.IsOperand (d.quoteColumn column))
    (herror : error? (inRows d columns rows negated) = none)
    (hblank : rows = [] → (ofEmptyList negated).isBlank = false) :
    IsPredicate d (inRows d columns rows negated) := by
  unfold inRows at herror ⊢
  cases hfind : rows.find? fun row => row.length != columns.length with
  | some row => simp [hfind] at herror
  | none =>
    have hlength : ∀ row ∈ rows, row.length = columns.length := by
      simpa using List.find?_eq_none.mp hfind
    dsimp only
    split_ifs with hempty hrowvalue
    · exact isPredicate_ofEmptyList (hblank (List.isEmpty_iff.mp hempty))
    · exact isPredicate_inRowValues rows negated hne h
    · exact isPredicate_inRowsExpanded negated hne (by simpa using hempty) hlength h

/-! ### Patterns -/

/-- A comparison of an operand with a value, with a text after it. -/
lemma isPredicate_slot_text {s t : String} (hq : d.IsOperand q) (hs : d.checkPlain s = true)
    (hstart : startsApart s = true) (hend : endsApart s = true) (hint : String) (v : Value)
    (ht : t = "" ∨ d.checkPlain t = true ∧ startsApart t = true) :
    IsPredicate d [.text (q ++ s), .slot hint v, .text t] := by
  rcases ht with rfl | ⟨ht, hapart⟩
  · exact isPredicate_slot hq hs hstart hend hint v
  · apply isPredicate_operand hq hs hstart
    intro b hb
    rw [Binding.textOf_slot_cons, Binding.textOf_text_cons, Binding.textOf_nil,
      String.append_empty, ← String.append_assoc]
    exact (isPlain_slot hb hs hend hint v).append (Dialect.isPlain_of_check ht) (.inr hapart)

lemma likeEscape_apart (d : Dialect) : d.likeEscape = "" ∨
    d.checkPlain d.likeEscape = true ∧ startsApart d.likeEscape = true := by
  cases d with
  | mysql | pgsql | cubrid => exact .inl rfl
  | sqlite | mssql => exact .inr ⟨rfl, by decide⟩

lemma isPredicate_likeValue (hq : d.IsOperand (d.quoteColumn column)) (op : LikeOp)
    (rawPattern : Bool) {v : Value} (herror : error? (likeValue d op column rawPattern v) = none) :
    IsPredicate d (likeValue d op column rawPattern v) := by
  have hkeyword : d.checkPlain (" " ++ likeKeyword d op ++ " ") = true := by
    cases d <;> cases op <;> rfl
  have hstart : startsApart (" " ++ likeKeyword d op ++ " ") = true := by
    rw [String.append_assoc]
    exact startsApart_append (by decide) (by decide)
  have hend : endsApart (" " ++ likeKeyword d op ++ " ") = true :=
    endsApart_append (by decide) (by decide)
  unfold likeValue at herror ⊢
  by_cases hnull : v.isNull = true
  · rw [if_pos hnull] at herror
    simp at herror
  rw [if_neg hnull]
  have hassoc : d.quoteColumn column ++ " " ++ likeKeyword d op ++ " " =
      d.quoteColumn column ++ (" " ++ likeKeyword d op ++ " ") := by
    simp only [String.append_assoc]
  cases rawPattern with
  | true =>
    rw [if_pos rfl, hassoc]
    exact isPredicate_slot hq hkeyword hstart hend _ _
  | false =>
    rw [if_neg (by decide), hassoc]
    exact isPredicate_slot_text hq hkeyword hstart hend _ _ (likeEscape_apart d)

/-- A comparison with patterns is a predicate, with parentheses around several of them. -/
lemma isPredicate_like (hq : d.IsOperand (d.quoteColumn column)) (op : LikeOp)
    (values : List Value) (rawPattern : Bool)
    (herror : error? (like d op column values rawPattern) = none)
    (hblank : values = [] → (ofEmptyList op.isNegated).isBlank = false) :
    IsPredicate d (like d op column values rawPattern) := by
  have hvalues (h : ∀ f ∈ values.map (likeValue d op column rawPattern), error? f = none) :
      ∀ f ∈ values.map (likeValue d op column rawPattern), error? f = none ∧ IsPredicate d f := by
    intro f hf
    have hf' := h f hf
    obtain ⟨v, -, rfl⟩ := List.mem_map.mp hf
    exact ⟨hf', isPredicate_likeValue hq op rawPattern hf'⟩
  have hempty : values.map (likeValue d op column rawPattern) = [] →
      (ofEmptyList op.isNegated).isBlank = false := fun h => hblank (List.map_eq_nil_iff.mp h)
  unfold like at herror ⊢
  generalize values.map (likeValue d op column rawPattern) = fs at herror hempty hvalues ⊢
  match fs with
  | [] => exact isPredicate_ofEmptyList (hempty rfl)
  | [f] => exact (hvalues (by simpa using herror) f List.mem_cons_self).2
  | f :: g :: fs =>
    dsimp only at herror ⊢
    rw [error?_bracket, error?_join] at herror
    have hall := hvalues herror
    have hor : op.joiner = " OR " → IsFormula d (join op.joiner (f :: g :: fs)) := by
      intro h
      rw [h]
      exact isFormula_join_or (by simp) hall
    have hand : op.joiner = " AND " → IsFormula d (join op.joiner (f :: g :: fs)) := by
      intro h
      rw [h]
      exact (isPredicate_join_and (by simp) hall).isFormula
    refine IsFormula.bracket ?_ ((error?_join _ _).mpr herror)
    cases op with
    | orLike | orNotLike => exact hor rfl
    | like | notLike | ilike | notIlike => exact hand rfl

end SqlCompose.Fragment
