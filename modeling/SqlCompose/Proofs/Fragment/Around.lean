import Mathlib
import SqlCompose.Proofs.PseudoSyntax.Table
import SqlCompose.Proofs.Text.Blank

/-!
# What stands around a text

A fragment may be a text in several pieces. If the text does not end with a blank, trimming what
stands behind it does not reach it. What is written before and after it, and what is bound then, is
the same for all such texts.
-/

namespace SqlCompose

open Fragment

/-! ### Texts in a fragment -/

namespace Fragment

variable {f g : Fragment} {s t : String}

/-- Trimming does not go past a fragment that is trimmed already. -/
lemma trimReversed_append_of_trimmed (h : trimReversed g = g) :
    trimReversed (f ++ g) = trimReversed f ++ g := by
  induction f with
  | nil => exact h
  | cons piece f ih =>
    cases piece with
    | text s =>
      simp only [List.cons_append, trimReversed]
      split
      · exact ih
      · rfl
    | supply params => exact congrArg (_ :: ·) ih
    | slot | refusal => rfl

/-- Trimming does not reach a fragment from which nothing is to be dropped. -/
lemma trimEnd_append_of_trimmed (h : trimEnd f = f) : trimEnd (f ++ g) = f ++ trimEnd g := by
  have hreverse : trimReversed f.reverse = f.reverse := by
    rw [← List.reverse_inj, List.reverse_reverse]
    exact h
  rw [trimEnd, List.reverse_append, trimReversed_append_of_trimmed hreverse, List.reverse_append,
    List.reverse_reverse]
  rfl

/-- A fragment that is a text, of which the last piece does not end with a blank. -/
inductive Spells : Fragment → String → Prop
  | last {s : String} (h : EndsVisibly s.toList) : Spells [.text s] s
  | cons {f : Fragment} {s : String} (t : String) (h : Spells f s) : Spells (.text t :: f) (t ++ s)

lemma Spells.append (hf : f.Spells s) (hg : g.Spells t) : (f ++ g).Spells (s ++ t) := by
  induction hf with
  | last => exact .cons _ hg
  | cons t' _ ih =>
    rw [String.append_assoc]
    exact .cons t' ih

lemma Spells.any_stops (h : f.Spells s) : f.any Piece.stops = true := by
  induction h with
  | last h => rw [List.any_cons, stops_of_endsVisibly h, Bool.true_or]
  | cons _ _ ih => rw [List.any_cons, ih, Bool.or_true]

/-- A text that ends visibly keeps what stands before it from being trimmed. -/
lemma Spells.trimEnd_append (h : f.Spells s) (g : Fragment) :
    trimEnd (g ++ f) = g ++ f := by
  rw [Fragment.trimEnd_append h.any_stops]
  congr 1
  induction h with
  | last h => exact trimEnd_concat_of_endsVisibly h []
  | cons t h ih => rw [trimEnd_cons h.any_stops, ih]

lemma spells_join {fs : List Fragment} {ss : List String} (h : List.Forall₂ Spells fs ss)
    (hne : fs ≠ []) (sep : String) : (join sep fs).Spells (Text.join sep ss) := by
  unfold join Text.join
  induction h with
  | nil => exact absurd rfl hne
  | @cons f s fs ss hf hrest ih =>
    cases hrest with
    | nil =>
      rw [List.intercalate_singleton, String.intercalate_singleton]
      exact hf
    | @cons f' s' fs ss =>
      have hjoined := ih (List.cons_ne_nil f' fs)
      rw [List.intercalate_cons_cons, String.intercalate_cons_cons, List.append_assoc,
        String.append_assoc]
      exact hf.append (.cons sep hjoined)

end Fragment

/-! ### Writing -/

namespace Binding

variable {f g : Fragment} {s : String}

/-- What is written before and after something that binds nothing, and what is bound then. -/
def around (b : Binding) (f g : Fragment) : Outcome (String × String) × Binding :=
  match b.write f with
  | (.error e, b) => (.error e, b)
  | (.ok before, b) => ((b.write g).1.map fun after => (before, after), (b.write g).2)

/-- Writing goes on with the second fragment unless the first one refuses something. -/
lemma write_append (b : Binding) (f g : Fragment) :
    b.write (f ++ g) = match b.write f with
      | (.error e, b) => (.error e, b)
      | (.ok before, b) => ((b.write g).1.map (before ++ ·), (b.write g).2) := by
  induction f generalizing b with
  | nil =>
    rcases hwrite : b.write g with ⟨_ | _, _⟩ <;> simp [write, hwrite, Except.map]
  | cons piece f ih =>
    cases piece with
    | text s =>
      simp only [List.cons_append, write, ih]
      rcases b.write f with ⟨_ | before, b⟩
      · rfl
      · rcases hwrite : b.write g with ⟨_ | _, _⟩ <;> simp [hwrite, Except.map, String.append_assoc]
    | slot hint v =>
      simp only [List.cons_append, write, ih]
      rcases (b.bind hint v).2.write f with ⟨_ | before, b⟩
      · rfl
      · rcases hwrite : b.write g with ⟨_ | _, _⟩ <;> simp [hwrite, Except.map, String.append_assoc]
    | supply params => exact ih (b.merge params)
    | refusal e => rfl

/-- A fragment of texts is written as it is, and binds nothing. -/
lemma write_of_spells (h : f.Spells s) (b : Binding) : b.write f = (.ok s, b) := by
  induction h with
  | @last s h => simp [write, Except.map]
  | cons t _ ih => rw [write, ih]; rfl

/-- What is written around a text, and what is bound then, does not depend on the text. -/
lemma write_around (h : f.Spells s) (b : Binding) (before after : Fragment) :
    b.write (before ++ f ++ after) =
      ((b.around before after).1.map fun p => p.1 ++ s ++ p.2, (b.around before after).2) := by
  rw [write_append, write_append, around]
  rcases b.write before with ⟨_ | text, b⟩
  · rfl
  · simp only [write_of_spells h, Except.map]
    cases (b.write after).1 <;> rfl

end Binding

end SqlCompose
