import Mathlib
import SqlCompose.Proofs.Binding.Text
import SqlCompose.Proofs.Reading.Value

/-!
# Reading what a fragment is written as

Fragments that refuse nothing are written one after the other, so the text of a compound fragment is
read by the laws of precedence from what its parts are read as.
-/

namespace SqlCompose

open Fragment Formula

namespace Binding

variable {b : Binding} {f g : Fragment} {s : String} {ps qs : List Formula} {p q : Formula}

/-! ### Compound fragments -/

/-- The text of a fragment is read as the disjunction of these parts. -/
def Reads (b : Binding) (f : Fragment) (ps : List Formula) : Prop :=
  ∃ is, b.dialect.items? (b.textOf f) = some is ∧ Formula.Reads is ps

lemma Reads.bracket (h : b.Reads f ps) (hf : f.error? = none) :
    b.Reads (bracket f) [anyOf ps] := by
  obtain ⟨is, his, hreads⟩ := h
  refine ⟨[.group (is.flatMap Item.tokens) (ofGroup? is)], ?_, hreads.group⟩
  rw [textOf_bracket hf, Dialect.items?_parens his]

lemma Reads.not (h : b.Reads f ps) (hf : f.error? = none) :
    b.Reads (.text "NOT " :: Fragment.bracket f) [(anyOf ps).not] := by
  obtain ⟨is, his, hreads⟩ := h
  have hnot : b.dialect.items? "NOT " = some [.token (.word "NOT".toList)] := by
    cases b.dialect <;> rfl
  refine ⟨[.token (.word "NOT".toList), .group (is.flatMap Item.tokens) (ofGroup? is)], ?_,
    hreads.not rfl⟩
  rw [textOf_text_cons, textOf_bracket hf]
  exact Dialect.items?_append hnot (Dialect.items?_parens his) (.inl (by decide))

/-- Two fragments with a keyword between them. -/
lemma items?_textOf_append {is js : List Item} {i : Item} (hf : f.error? = none)
    (hs : b.dialect.items? s = some [i]) (hstart : startsApart s = true)
    (hend : endsApart s = true) (his : b.dialect.items? (b.textOf f) = some is)
    (hjs : b.dialect.items? ((b.after f).textOf g) = some js) :
    b.dialect.items? (b.textOf (f ++ .text s :: g)) = some (is ++ i :: js) := by
  rw [textOf_append hf, textOf_text_cons]
  have hright := Dialect.items?_append hs hjs (.inl hend)
  have hne : s ≠ "" := by
    rintro rfl
    have hempty : b.dialect.items? "" = some [] := rfl
    simp [hempty] at hs
  exact Dialect.items?_append his hright (.inr (startsApart_append hstart hne))

/-- Around an OR the parts stand side by side. -/
lemma Reads.or (h : b.Reads f ps) (hf : f.error? = none) (h' : (b.after f).Reads g qs) :
    b.Reads (f ++ .text " OR " :: g) (ps ++ qs) := by
  obtain ⟨is, his, hreads⟩ := h
  obtain ⟨js, hjs, hreads'⟩ := h'
  rw [after_dialect] at hjs
  have hor : b.dialect.items? " OR " = some [.token (.word "OR".toList)] := by
    cases b.dialect <;> rfl
  exact ⟨_, items?_textOf_append hf hor (by decide) (by decide) his hjs, hreads.or hreads' rfl⟩

/-- Around an AND the last part of the one and the first of the other become one. -/
lemma Reads.and (h : b.Reads f (ps ++ [p])) (hf : f.error? = none)
    (h' : (b.after f).Reads g (q :: qs)) :
    b.Reads (f ++ .text " AND " :: g) (ps ++ p.and q :: qs) := by
  obtain ⟨is, his, hreads⟩ := h
  obtain ⟨js, hjs, hreads'⟩ := h'
  rw [after_dialect] at hjs
  have hand : b.dialect.items? " AND " = some [.token (.word "AND".toList)] := by
    cases b.dialect <;> rfl
  exact ⟨_, items?_textOf_append hf hand (by decide) (by decide) his hjs,
    hreads.and hreads' rfl rfl⟩

end Binding

end SqlCompose
