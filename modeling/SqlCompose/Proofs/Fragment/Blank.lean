import Mathlib
import SqlCompose.Fragment.Query

/-!
# Fragments without a text

A fragment is blank if it has no text, no value and no refusal. What is put together of several
fragments is blank if these are. Of the predicates, only the negated lists without members are: each
other one, and each lookup, has a text or is refused.
-/

namespace SqlCompose

namespace Fragment

/-! ### Pieces and groups -/

@[simp] lemma isBlank_nil : isBlank [] = true := rfl

@[simp] lemma isBlank_cons (p : Piece) (f : Fragment) :
    isBlank (p :: f) = (p.isBlank && isBlank f) := List.all_cons

@[simp] lemma isBlank_text (s : String) : (Piece.text s).isBlank = s.isEmpty := rfl

@[simp] lemma isBlank_slot (hint : String) (v : Value) : (Piece.slot hint v).isBlank = false := rfl

@[simp] lemma isBlank_supply (params : Params) : (Piece.supply params).isBlank = true := rfl

@[simp] lemma isBlank_refusal (e : QueryError) : (Piece.refusal e).isBlank = false := rfl

@[simp] lemma isBlank_bracket (f : Fragment) : isBlank (bracket f) = false := rfl

/-- Joined fragments are blank exactly if all of them are. -/
lemma isBlank_joinFrom (sep : String) (started : Bool) (fs : List Fragment) :
    isBlank (joinFrom sep started fs) = fs.all isBlank := by
  induction fs generalizing started with
  | nil => rfl
  | cons f fs ih =>
    rw [joinFrom, List.all_cons]
    cases hf : isBlank f with
    | true => rw [if_pos rfl, isBlank_append, ih, hf]
    | false =>
      rw [if_neg (by decide), isBlank_append, isBlank_append, hf, Bool.and_false, Bool.false_and,
        Bool.false_and]

@[simp] lemma isBlank_joinNonBlank (sep : String) (fs : List Fragment) :
    isBlank (joinNonBlank sep fs) = fs.all isBlank := isBlank_joinFrom ..

/-- A group has no text if no member has one. -/
@[simp] lemma isBlank_group (conjunction : Bool) (members : List (Bool × Fragment)) :
    isBlank (group conjunction members) = members.all fun m => isBlank m.2 := by
  rw [group, isBlank_joinNonBlank, List.all_map]
  congr 1
  funext ⟨brackets, f⟩
  dsimp only [Function.comp]
  split
  · -- only a member with a text is put in parentheses
    rename_i hf
    simp only [Bool.and_eq_true, Bool.not_eq_true'] at hf
    rw [hf.2, isBlank_bracket]
  · rfl

/-- A text that ends with another one is as empty as both. -/
@[simp] lemma isEmpty_append_text (s t : String) :
    (s ++ t).isEmpty = (s.isEmpty && t.isEmpty) := by
  rw [Bool.eq_iff_iff]
  simp [String.isEmpty_iff]

@[simp] lemma isBlank_ofEmptyList (negated : Bool) : isBlank (ofEmptyList negated) = negated := by
  cases negated <;> rfl

lemma isBlank_join_eq_false {sep : String} {f : Fragment} {fs : List Fragment}
    (h : isBlank f = false) : isBlank (join sep (f :: fs)) = false := by
  unfold join
  cases fs with
  | nil => rwa [List.intercalate_singleton]
  | cons g fs => rw [List.intercalate_cons_cons, isBlank_append, isBlank_append, h]; rfl

/-! ### Predicates -/

variable (d : Dialect)

/-- Only the negation of a membership in the empty list has no text. -/
lemma isBlank_inList (column : String) (values : List Value) (negated : Bool) :
    isBlank (inList d column values negated) = (values.isEmpty && negated) := by
  unfold inList
  dsimp only
  cases values with
  | nil => exact isBlank_ofEmptyList negated
  | cons v values =>
    rw [List.isEmpty_cons, Bool.false_and]
    split
    · rw [if_neg (by decide)]
      cases negated <;> simp
    · split <;> simp
    · split <;> cases negated <;> simp

/-- A comparison of columns with a row of values has a text. -/
lemma isBlank_equalsRow {columns : List String} {row : List Value} (hne : columns ≠ [])
    (hwidth : row.length = columns.length) : isBlank (equalsRow d columns row) = false := by
  obtain ⟨column, columns, rfl⟩ := List.exists_cons_of_ne_nil hne
  cases row with
  | nil => simp at hwidth
  | cons v row =>
    rw [equalsRow, List.zip_cons_cons, List.map_cons]
    apply isBlank_join_eq_false
    dsimp only
    split <;> simp

/-- A membership in rows has no text only where it is negated and has no rows. -/
lemma isBlank_inRows {columns : List String} (hne : columns ≠ []) (rows : List (List Value))
    (negated : Bool) : isBlank (inRows d columns rows negated) = (rows.isEmpty && negated) := by
  unfold inRows
  cases rows with
  | nil => exact isBlank_ofEmptyList negated
  | cons row rows =>
    rw [List.isEmpty_cons, Bool.false_and]
    split
    · rfl
    · rename_i hfind
      have hwidth : row.length = columns.length := by
        rw [List.find?_eq_none] at hfind
        simpa using hfind row List.mem_cons_self
      rw [if_neg (by decide)]
      split
      · cases negated <;> simp [inRowValues]
      · unfold inRowsExpanded
        dsimp only
        cases rows with
        | nil =>
          have hrow := isBlank_equalsRow d hne hwidth
          cases negated <;> simp [hrow]
        | cons row' rows => cases negated <;> simp

lemma isBlank_likeValue (op : LikeOp) (column : String) (rawPattern : Bool) (v : Value) :
    isBlank (likeValue d op column rawPattern v) = false := by
  unfold likeValue
  split
  · rfl
  · dsimp only
    split <;> simp

/-- Only the negation of a likeness to one of no values has no text. -/
lemma isBlank_like (op : LikeOp) (column : String) (values : List Value) (rawPattern : Bool) :
    isBlank (Fragment.like d op column values rawPattern) = (values.isEmpty && op.isNegated) := by
  unfold Fragment.like
  match values with
  | [] => exact isBlank_ofEmptyList op.isNegated
  | [v] => exact isBlank_likeValue d op column rawPattern v
  | _ :: _ :: _ => rfl

/-- A lookup of a single value has a text, even one that refuses its operand. -/
lemma isBlank_ofScalar {lookup : Lookup} {operand : Operand} {predicate : Value → Fragment}
    (h : ∀ v, isBlank (predicate v) = false) :
    isBlank (ofScalar lookup operand predicate) = false := by
  cases operand with
  | value v => exact h v
  | list | query | expr => rfl

/-- A lookup of a text has a text, even one that refuses its operand. -/
lemma isBlank_ofPattern (lookup : Lookup) (field : String) (pattern : Pattern) (ignoreCase : Bool)
    (operand : Operand) :
    isBlank (ofPattern d lookup field pattern ignoreCase operand) = false := by
  refine isBlank_ofScalar fun v => ?_
  split
  · rfl
  · unfold likePattern
    split <;> simp

/-- Each lookup has a text or is refused. -/
lemma isBlank_lookup (lookup : Lookup) (field : String) (operand : Operand) :
    isBlank (lookup.fragment d field operand) = false := by
  cases lookup with
  | contains | icontains | startsWith | istartsWith | endsWith | iendsWith =>
    exact isBlank_ofPattern ..
  | exact | iexact =>
    refine isBlank_ofScalar fun v => ?_
    simp only [exactly, exactlyIgnoringCase]
    split <;> simp
  | gt | gte | lt | lte => exact isBlank_ofScalar fun v => by simp [comparison]
  | range =>
    simp only [Lookup.fragment]
    split
    · simp
    · rfl
  | within =>
    have hvalues (values : List Value) : isBlank (amongValues field values) = false := by
      unfold amongValues
      split <;> simp
    cases operand with
    | value v => exact hvalues [v]
    | list values => exact hvalues values
    | query | expr => rfl
  | isNull =>
    refine isBlank_ofScalar fun v => ?_
    unfold nullCheck
    split <;> simp [refuseLookup]
  | regex | iregex =>
    refine isBlank_ofScalar fun v => ?_
    unfold Fragment.regex
    split <;> simp
  | part p =>
    refine isBlank_ofScalar fun v => ?_
    unfold Fragment.datePart
    dsimp only
    split
    · rfl
    · split
      · rfl
      · simp
  | search => rfl

/-- Each pair of a hash has a text. -/
lemma all_isBlank_hashFragments (pairs : List (String × Operand)) :
    (hashFragments d pairs).all isBlank = pairs.isEmpty := by
  match pairs with
  | [] => rfl
  | (column, .value v) :: pairs =>
    rw [hashFragments, List.all_cons]
    split <;> simp
  | (column, .list values) :: pairs =>
    rw [hashFragments, List.all_cons, isBlank_inList, Bool.and_false]
    rfl
  | (column, .query q) :: pairs => simp [hashFragments]
  | (column, .expr e) :: pairs => simp [hashFragments]

end Fragment

end SqlCompose
