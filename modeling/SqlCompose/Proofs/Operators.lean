import Mathlib
import SqlCompose.Proofs.Bound.Fragment
import SqlCompose.Proofs.Fragment.Query

/-!
# Lookups that are operators

To look for a text in a field, for a value that is equal, less or greater, for a range or in the
rows of a query is what a condition by an operator says too. Both are written alike, text and
parameters, with placeholders and inline. A lookup makes its placeholders from the quoted column and
a condition from the column; but quoting adds neither a letter nor a digit, and of a hint nothing
else comes into a name.
-/

namespace SqlCompose

open Fragment

/-! ### Hints -/

namespace Binding

variable {b : Binding} {f g : Fragment}

/-- Of its hints, only letters and digits count for what is written of a fragment. -/
lemma write_map_based (b : Binding) (f : Fragment) : b.write (f.map Piece.based) = b.write f := by
  induction f generalizing b with
  | nil => rfl
  | cons piece rest ih =>
    cases piece with
    | text s =>
      have hrest : b.write (.text s :: rest.map Piece.based) = b.write (.text s :: rest) := by
        rw [write, write, ih]
      exact hrest
    | slot hint v =>
      have hrest : b.write (.slot (base hint) v :: rest.map Piece.based) =
          b.write (.slot hint v :: rest) := by
        rw [write, write, bind_base]
        dsimp only
        rw [ih]
      exact hrest
    | supply params => exact ih (b.merge params)
    | refusal e => rfl

lemma write_congr (h : f.map Piece.based = g.map Piece.based) : b.write f = b.write g := by
  rw [← write_map_based, h, write_map_based]

end Binding

/-! ### Fragments -/

section Fragments

variable (d : Dialect) (column : String)

/-- The comparison that a lookup makes with a value that is no null. -/
def Lookup.compareOp? : Lookup → Option CompareOp
  | .exact => some .eq
  | .gt => some .gt
  | .gte => some .gte
  | .lt => some .lt
  | .lte => some .lte
  | _ => none

/-- Looking for a text within a column is what the LIKE operator does. -/
lemma map_based_contains {v : Value} (hv : v.isNull = false) :
    ((Condition.lookup column .contains (.value v)).fragment d).map Piece.based =
      ((Condition.likeBy .like column [v]).fragment d).map Piece.based := by
  have hlike : likePattern d (d.quoteColumn column) false (.text (Pattern.contains.apply v.display))
      = [.text (d.quoteColumn column ++ " LIKE "),
        .slot (d.quoteColumn column) (.text (Pattern.contains.apply v.display)),
        .text d.likeEscape] := by cases d <;> rfl
  have hkeyword : d.quoteColumn column ++ " " ++ likeKeyword d .like ++ " " =
      d.quoteColumn column ++ " LIKE " := by
    rw [String.append_assoc, String.append_assoc]
    rfl
  rw [Condition.fragment_lookup (by simp)]
  simp [Lookup.fragment, ofPattern, ofScalar, Condition.likeBy, Condition.fragment, Fragment.like,
    likeValue, hv, hlike, hkeyword, Piece.based]

/-- The comparison by a lookup and that by an operator differ in the hint at most. -/
lemma map_based_comparison {lookup : Lookup} {op : CompareOp} (hop : lookup.compareOp? = some op)
    {v : Value} (hv : v.isNull = false) :
    ((Condition.lookup column lookup (.value v)).fragment d).map Piece.based =
      ((Condition.compare column op (.value v)).fragment d).map Piece.based := by
  have hlookup : lookup.fragment d (d.quoteColumn column) (.value v) =
      comparison (d.quoteColumn column) op v := by
    cases lookup with
    | exact =>
      obtain rfl := Option.some.inj hop
      have htext : d.quoteColumn column ++ " " ++ CompareOp.eq.token ++ " " =
          d.quoteColumn column ++ " = " := by
        rw [String.append_assoc, String.append_assoc]
        rfl
      simp [Lookup.fragment, ofScalar, exactly, hv, comparison, htext]
    | gt | gte | lt | lte =>
      obtain rfl := Option.some.inj hop
      rfl
    | _ => simp [Lookup.compareOp?] at hop
  rw [Condition.fragment_lookup (by simp), hlookup]
  simp [comparison, Condition.fragment, hv, Piece.based]

/-- The lookup of a range is the condition on a range. -/
lemma map_based_range (low high : Value) :
    ((Condition.lookup column .range (.list [low, high])).fragment d).map Piece.based =
      ((Condition.between column low high false).fragment d).map Piece.based := by
  rw [Condition.fragment_lookup (by simp)]
  simp [Lookup.fragment, Condition.fragment, Piece.based]

end Fragments

namespace Builder

variable {b : Builder} {c c' : Condition}

/-- Conditions with the same text, the same values and the same reserved names are written alike. -/
lemma condition_congr (hnames : c.suppliedNames = c'.suppliedNames)
    (h : (c.fragment b.dialect).map Piece.based = (c'.fragment b.dialect).map Piece.based) :
    b.condition c = b.condition c' := by
  rw [condition, condition, Built.ofFragment, Built.ofFragment, hnames, Binding.write_congr h]

/-- Conditions with the same pieces and reserved names are built alike. -/
lemma exists_condition_congr (hnames : c.suppliedNames = c'.suppliedNames)
    (h : (c.fragment b.dialect).map Piece.based = (c'.fragment b.dialect).map Piece.based)
    (herror : error? (c'.fragment b.dialect) = none) :
    ∃ out, b.condition c = .ok out ∧ b.condition c' = .ok out := by
  have hwrite := b.write_eq_match (s := .condition c')
  rw [Draft.fragment, herror] at hwrite
  exact ⟨_, (condition_congr hnames h).trans hwrite, hwrite⟩

/-- A lookup and the condition by an operator that says the same are both written, with the same
text and the same parameters; in the rows of a query, they are if the query is. -/
theorem lookup_eq_operator (b : Builder) (column : String) :
    (∀ v : Value, v ≠ .null → ∃ out,
      b.condition (.lookup column .contains (.value v)) = .ok out ∧
        b.condition (.likeBy .like column [v]) = .ok out) ∧
    (∀ (lookup : Lookup) (op : CompareOp) (v : Value), lookup.compareOp? = some op → v ≠ .null →
      ∃ out, b.condition (.lookup column lookup (.value v)) = .ok out ∧
        b.condition (.compare column op (.value v)) = .ok out) ∧
    (∀ low high : Value, ∃ out,
      b.condition (.lookup column .range (.list [low, high])) = .ok out ∧
        b.condition (.between column low high false) = .ok out) ∧
    (∀ q : Query,
      b.condition (.lookup column .within (.query q)) = b.condition (.inQuery column q)) := by
  have hnull {v : Value} (hv : v ≠ .null) : v.isNull = false := by
    cases v with
    | null => exact absurd rfl hv
    | _ => rfl
  refine ⟨fun v hv => ?_, fun lookup op v hop hv => ?_, fun low high => ?_, fun q => ?_⟩
  · refine exists_condition_congr rfl (map_based_contains b.dialect column (hnull hv)) ?_
    simp [Condition.likeBy, Condition.fragment, Fragment.like, likeValue, hnull hv]
  · refine exists_condition_congr rfl (map_based_comparison b.dialect column hop (hnull hv)) ?_
    simp [Condition.fragment, hnull hv]
  · refine exists_condition_congr rfl (map_based_range b.dialect column low high) ?_
    simp [Condition.fragment]
  · refine condition_congr rfl ?_
    rfl

/-- A text with a wild card is looked for in a column with a blank in its name. -/
theorem lookup_eq_operator_wildcard :
    ∃ out : Built, (Builder.mk .mssql none false).condition
        (.lookup "t.a b" .contains (.value (.text "50%"))) = .ok out ∧
      (Builder.mk .mssql none false).condition (.likeBy .like "t.a b" [.text "50%"]) = .ok out ∧
      out.sql = "[t].[a b] LIKE :tab1 ESCAPE '\\'" := by
  obtain ⟨out, hlookup, hlike⟩ :=
    (lookup_eq_operator ⟨.mssql, none, false⟩ "t.a b").1 (.text "50%") (by decide)
  refine ⟨out, hlookup, hlike, ?_⟩
  obtain rfl := Except.ok.inj hlike
  decide +kernel

end Builder

end SqlCompose
