import Mathlib
import SqlCompose.Proofs.Truth.Predicate

/-!
# The truth of fragments

What the text of a fragment is on a row, whatever stands for its values, as long as each of these
texts is read as the value that it stands for. A fragment is given a truth value by those of the
parts that it is put together from.
-/

namespace SqlCompose

open Fragment Formula

variable {α : Type*} {S : Interpretation α} {given : Value → Option α} {d : Dialect}

/-! ### Truth values of formulas -/

namespace Interpretation

/-- All predicates of a formula can be read, and it has this truth value. -/
structure Gives (S : Interpretation α) (p : Formula) (v : Truth) : Prop where
  atoms : ∀ ts ∈ p.atoms, (S.atom? ts).isSome = true
  value : p.value S.assign = v

variable {p q : Formula} {u v : Truth}

lemma Gives.and (hp : S.Gives p u) (hq : S.Gives q v) : S.Gives (p.and q) (u.and v) where
  atoms := by
    rw [Formula.atoms, List.forall_mem_append]
    exact ⟨hp.atoms, hq.atoms⟩
  value := by rw [Formula.value, hp.value, hq.value]

lemma Gives.not (hp : S.Gives p u) : S.Gives p.not u.not where
  atoms := hp.atoms
  value := by rw [Formula.value, hp.value]

/-- A disjunction is as true as its truest part. -/
lemma gives_anyOf {ps : List Formula} {vs : List Truth} (hne : ps ≠ [])
    (h : List.Forall₂ S.Gives ps vs) : S.Gives (anyOf ps) (.any vs) := by
  have hboth : (∀ ts ∈ ps.flatMap Formula.atoms, (S.atom? ts).isSome = true) ∧
      ps.map (Formula.value S.assign) = vs := by
    clear hne
    induction h with
    | nil => simp
    | cons hp _ ih =>
      rw [List.flatMap_cons, List.forall_mem_append, List.map_cons, hp.value, ih.2]
      exact ⟨⟨hp.atoms, ih.1⟩, rfl⟩
  obtain ⟨hatoms, rfl⟩ := hboth
  obtain ⟨p, ps, rfl⟩ := List.exists_cons_of_ne_nil hne
  constructor
  · rwa [atoms_anyOf hne]
  · rw [anyOf, value_foldl_or]
    rfl

/-- A predicate is as true as what is said in it. -/
lemma gives_atom {is js : List Item} {i : Item}
    (hitems : items? ((is ++ i :: js).flatMap Item.tokens) = some (is ++ i :: js))
    (hsubject : IsSubject is) (hi : i.isOperator = true) {holds : Bool} {saying : Saying}
    (hread : Saying.ofItems? (i :: js) = some (holds, saying))
    (hmeaning : S.says? (S.denoteAll is) saying = some u) :
    S.Gives (.atom ((is ++ i :: js).flatMap Item.tokens)) (if holds then u else u.not) := by
  have hatom : S.atom? ((is ++ i :: js).flatMap Item.tokens) =
      some (if holds then u else u.not) := by
    rw [atom?, hitems, Option.bind_some,
      Predicate.ofItems?_append hsubject.ne_nil hsubject.noOperator hi, hread, Option.map_some,
      Option.bind_some, truth?, hmeaning, Option.map_some]
  constructor
  · intro ts hts
    obtain rfl := List.mem_singleton.mp hts
    rw [hatom]
    rfl
  · rw [Formula.value, assign, hatom, Option.getD_some]

end Interpretation

open Interpretation

/-! ### What stands for values -/

namespace Binding

variable {b : Binding} {f g : Fragment}

/-- The values of two fragments are placed one after the other. -/
lemma placed_append (h : f.error? = none) :
    b.placed (f ++ g) = b.placed f ++ (b.after f).placed g := by
  induction f generalizing b with
  | nil => rfl
  | cons piece rest ih =>
    cases piece with
    | text s => exact ih h
    | slot hint v => exact congrArg (_ :: ·) (ih h)
    | supply params => exact ih h
    | refusal e => simp at h

lemma placed_bracket (h : f.error? = none) : b.placed (bracket f) = b.placed f := by
  have hplaced : b.placed (bracket f) = b.placed (f ++ [.text ")"]) := rfl
  rw [hplaced, placed_append h]
  exact List.append_nil _

end Binding

/-- Each text that stands for a value is read as this value. -/
def Interpretation.Sees (S : Interpretation α) (d : Dialect) (given : Value → Option α)
    (placed : List (String × Value)) : Prop :=
  ∀ e ∈ placed, ∀ is, d.items? e.1 = some is → S.denote is = given e.2

lemma Interpretation.sees_append {xs ys : List (String × Value)} :
    S.Sees d given (xs ++ ys) ↔ S.Sees d given xs ∧ S.Sees d given ys :=
  List.forall_mem_append

namespace Fragment

variable {f g : Fragment} {fs : List Fragment} {u v : Truth} {vs : List Truth}

/-- The text of a fragment is read as a disjunction of parts with these truth values. -/
def SaysAny (S : Interpretation α) (given : Value → Option α) (d : Dialect) (f : Fragment)
    (vs : List Truth) : Prop :=
  ∀ b : Binding, b.dialect = d → S.Sees d given (b.placed f) →
    ∃ ps, b.Reads f ps ∧ List.Forall₂ S.Gives ps vs

/-- The text of a fragment has no OR outside parentheses and is read with this truth value. -/
def Says (S : Interpretation α) (given : Value → Option α) (d : Dialect) (f : Fragment)
    (v : Truth) : Prop :=
  ∀ b : Binding, b.dialect = d → S.Sees d given (b.placed f) → ∃ p, b.Reads f [p] ∧ S.Gives p v

lemma Says.saysAny (h : Says S given d f v) : SaysAny S given d f [v] := by
  intro b hb hsees
  obtain ⟨p, hp, hgives⟩ := h b hb hsees
  exact ⟨[p], hp, .cons hgives .nil⟩

/-- Parentheses make one part of what stands in them. -/
lemma SaysAny.bracket (h : SaysAny S given d f vs) (herror : f.error? = none) :
    Says S given d (Fragment.bracket f) (.any vs) := by
  intro b hb hsees
  rw [Binding.placed_bracket herror] at hsees
  obtain ⟨ps, hps, hgives⟩ := h b hb hsees
  obtain ⟨is, his, hreads⟩ := hps
  exact ⟨_, Binding.Reads.bracket ⟨is, his, hreads⟩ herror,
    gives_anyOf hreads.parts_ne_nil hgives⟩

/-- The negation of a disjunction has the opposite truth value. -/
lemma SaysAny.not (h : SaysAny S given d f vs) (herror : f.error? = none) :
    Says S given d (.text "NOT " :: Fragment.bracket f) (Truth.any vs).not := by
  intro b hb hsees
  have hplaced : b.placed (.text "NOT " :: Fragment.bracket f) = b.placed f :=
    Binding.placed_bracket herror
  rw [hplaced] at hsees
  obtain ⟨ps, hps, hgives⟩ := h b hb hsees
  obtain ⟨is, his, hreads⟩ := hps
  exact ⟨_, Binding.Reads.not ⟨is, his, hreads⟩ herror,
    (gives_anyOf hreads.parts_ne_nil hgives).not⟩

lemma Says.bracket (h : Says S given d f v) (herror : f.error? = none) :
    Says S given d (Fragment.bracket f) v := by
  have hbracket := h.saysAny.bracket herror
  rwa [Truth.any_cons, Truth.any_nil, Truth.or_no] at hbracket

lemma Says.not (h : Says S given d f v) (herror : f.error? = none) :
    Says S given d (.text "NOT " :: Fragment.bracket f) v.not := by
  have hnot := h.saysAny.not herror
  rwa [Truth.any_cons, Truth.any_nil, Truth.or_no] at hnot

/-- Two sayings with AND between them are one, of both. -/
lemma Says.and (hf : Says S given d f u) (herror : f.error? = none) (hg : Says S given d g v) :
    Says S given d (f ++ .text " AND " :: g) (u.and v) := by
  intro b hb hsees
  rw [Binding.placed_append herror, sees_append] at hsees
  obtain ⟨p, hp, hgives⟩ := hf b hb hsees.1
  obtain ⟨q, hq, hgives'⟩ := hg (b.after f) (by rw [Binding.after_dialect, hb]) hsees.2
  have hlast : b.Reads f ([] ++ [p]) := hp
  exact ⟨p.and q, hlast.and herror hq, hgives.and hgives'⟩

lemma SaysAny.or {us : List Truth} (hf : SaysAny S given d f us) (herror : f.error? = none)
    (hg : SaysAny S given d g vs) : SaysAny S given d (f ++ .text " OR " :: g) (us ++ vs) := by
  intro b hb hsees
  rw [Binding.placed_append herror, sees_append] at hsees
  obtain ⟨ps, hps, hgives⟩ := hf b hb hsees.1
  obtain ⟨qs, hqs, hgives'⟩ := hg (b.after f) (by rw [Binding.after_dialect, hb]) hsees.2
  exact ⟨ps ++ qs, hps.or herror hqs, List.rel_append hgives hgives'⟩

/-- Predicates with AND between neighbours. -/
lemma says_join_and (hne : fs ≠ [])
    (h : List.Forall₂ (fun f v => error? f = none ∧ Says S given d f v) fs vs) :
    Says S given d (join " AND " fs) (.all vs) := by
  unfold join
  induction h with
  | nil => exact absurd rfl hne
  | @cons f v fs vs hf hrest ih =>
    cases hrest with
    | nil => simpa using hf.2
    | @cons g w gs ws hg hrest =>
      rw [List.intercalate_cons_cons, List.append_assoc]
      exact hf.2.and hf.1 (ih (by simp))

/-- Predicates with OR between neighbours. -/
lemma saysAny_join_or (hne : fs ≠ [])
    (h : List.Forall₂ (fun f v => error? f = none ∧ Says S given d f v) fs vs) :
    SaysAny S given d (join " OR " fs) vs := by
  unfold join
  induction h with
  | nil => exact absurd rfl hne
  | @cons f v fs vs hf hrest ih =>
    cases hrest with
    | nil => simpa using hf.2.saysAny
    | @cons g w gs ws hg hrest =>
      rw [List.intercalate_cons_cons, List.append_assoc]
      exact hf.2.saysAny.or hf.1 (ih (by simp))

/-- The truth value of a text that is written. -/
lemma Says.value?_textOf (h : Says S given d f v) {b : Binding} (hb : b.dialect = d)
    (hsees : S.Sees d given (b.placed f)) : S.value? d (b.textOf f) = some v := by
  subst hb
  obtain ⟨p, ⟨is, his, hreads⟩, hgives⟩ := h b rfl hsees
  obtain ⟨q, hq, halike⟩ := hreads.exists_ofItems?
  have hne : (b.textOf f).isEmpty = false := by
    rw [← Bool.not_eq_true, String.isEmpty_iff]
    intro hempty
    rw [hempty] at his
    exact hreads.ne_nil (Option.some.inj his.symm)
  have hread : b.dialect.read? (b.textOf f) = some q := by
    rw [Dialect.read?, his, Option.bind_some, hq]
  have hall : q.atoms.all (fun ts => (S.atom? ts).isSome) = true := by
    rw [halike.atoms, List.all_eq_true]
    exact hgives.atoms
  rw [value?, hne, if_neg (by decide), hread, Option.bind_some, if_pos hall, halike.value]
  exact congrArg some hgives.value

end Fragment

end SqlCompose
