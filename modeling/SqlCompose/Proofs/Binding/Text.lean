import Mathlib
import SqlCompose.Proofs.Fragment.Effects
import SqlCompose.Proofs.Fragment.Query
import SqlCompose.Proofs.Number.Numeral

/-!
# The text of a fragment

A fragment is written from a binding as a text and leaves another binding. Fragments that refuse
nothing are written one after the other. A fragment is dropped or trimmed before its values are
placed, but as if its text were: whatever is placed for a value has a text that does not end with a
blank, so what is written is empty exactly for a blank fragment, and for a trimmed fragment it is
the trimmed text.
-/

namespace SqlCompose

open Fragment

/-! ### Texts of values -/

lemma endsVisibly_toString (n : ℕ) : EndsVisibly (toString n).toList :=
  .of_forall (Digits.isRun_toString n).ne_nil fun c hc =>
    isBlank_of_isDigit ((Digits.isRun_toString n).all c hc)

lemma endsVisibly_numeral {s : List Char} (h : Digits.IsSigned s) : EndsVisibly s := by
  refine .of_forall h.ne_nil fun c hc => ?_
  rcases h.isDigit_or c hc with hdigit | hmark
  · exact isBlank_of_isDigit hdigit
  · rcases List.mem_pair.mp hmark with rfl | rfl <;> decide

lemma Dialect.endsVisibly_quoteText (d : Dialect) (s : String) :
    EndsVisibly (d.quoteText s).toList := by
  refine ⟨'\'', ?_, by decide⟩
  rw [quoteText, String.toList_ofList, ← List.cons_append, List.getLast?_concat]

lemma Dialect.endsVisibly_literal (d : Dialect) (v : Value) :
    EndsVisibly (d.literal v).toList := by
  cases v with
  | null => cases d <;> exact ⟨_, rfl, by decide⟩
  | bool b => cases d <;> cases b <;> exact ⟨_, rfl, by decide⟩
  | int n => exact endsVisibly_numeral (Digits.isSigned_toString n.toInt)
  | float x =>
    cases hfinite : x.isFinite with
    | true => exact endsVisibly_numeral (Double.isSigned_plain hfinite)
    | false =>
      rw [literal]
      rcases Double.plain_of_not_finite hfinite with h | h | h <;> rw [h] <;>
        exact ⟨_, rfl, by decide⟩
  | text s => exact d.endsVisibly_quoteText s
  | dateTime t => exact d.endsVisibly_quoteText t.text
  | date t => exact d.endsVisibly_quoteText t.text

namespace Binding

variable {b : Binding} {f g : Fragment} {s : String}

/-- The text of a fragment, up to a refusal. -/
def textOf (b : Binding) (f : Fragment) : String := f.fill (b.placedNames f)

/-- What is bound after a fragment. -/
def after (b : Binding) (f : Fragment) : Binding := (b.write f).2

@[simp] lemma textOf_nil : b.textOf [] = "" := rfl

@[simp] lemma textOf_text_cons : b.textOf (.text s :: f) = s ++ b.textOf f := rfl

@[simp] lemma textOf_slot_cons {hint : String} {v : Value} :
    b.textOf (.slot hint v :: f) = (b.bind hint v).1 ++ (b.bind hint v).2.textOf f := rfl

@[simp] lemma textOf_supply_cons {params : Params} :
    b.textOf (.supply params :: f) = (b.merge params).textOf f := rfl

@[simp] lemma after_nil : b.after [] = b := rfl

@[simp] lemma after_text_cons : b.after (.text s :: f) = b.after f := rfl

@[simp] lemma after_slot_cons {hint : String} {v : Value} :
    b.after (.slot hint v :: f) = (b.bind hint v).2.after f := rfl

@[simp] lemma after_supply_cons {params : Params} :
    b.after (.supply params :: f) = (b.merge params).after f := rfl

/-- What refuses nothing is written as its text. -/
lemma write_fst_eq_textOf (h : f.error? = none) : (b.write f).1 = .ok (b.textOf f) := by
  rw [write_fst, h]
  rfl

/-- What stands after a fragment is written from what the fragment leaves. -/
lemma textOf_append (h : f.error? = none) :
    b.textOf (f ++ g) = b.textOf f ++ (b.after f).textOf g := by
  induction f generalizing b with
  | nil => simp
  | cons piece rest ih =>
    cases piece with
    | text s => rw [List.cons_append, textOf_text_cons, textOf_text_cons, after_text_cons, ih h,
        String.append_assoc]
    | slot hint v => rw [List.cons_append, textOf_slot_cons, textOf_slot_cons, after_slot_cons,
        ih h, String.append_assoc]
    | supply params => exact ih h
    | refusal e => simp at h

/-- A fragment that refuses nothing binds its values before those of the fragment after it. -/
lemma after_append (h : f.error? = none) : b.after (f ++ g) = (b.after f).after g := by
  induction f generalizing b with
  | nil => rfl
  | cons piece rest ih =>
    cases piece with
    | text s => exact ih h
    | slot hint v => exact ih h
    | supply params => exact ih h
    | refusal e => simp at h

@[simp] lemma after_dialect : (b.after f).dialect = b.dialect := by
  induction f generalizing b with
  | nil => rfl
  | cons piece rest ih =>
    cases piece with
    | text s => exact ih
    | slot hint v => rw [after_slot_cons, ih, bind_snd_dialect]
    | supply params => rw [after_supply_cons, ih, merge_dialect]
    | refusal e => rfl

/-- Only what is no text counts for what is bound. -/
lemma after_effects (f : Fragment) : b.after f.effects = b.after f := by
  induction f generalizing b with
  | nil => rfl
  | cons piece rest ih =>
    cases piece with
    | text s => exact ih
    | slot hint v => exact ih
    | supply params => exact ih
    | refusal e => rfl

@[simp] lemma after_bracket (h : f.error? = none) : b.after (bracket f) = b.after f := by
  rw [bracket, after_text_cons, after_append h]
  rfl

lemma textOf_bracket (h : f.error? = none) :
    b.textOf (bracket f) = "(" ++ b.textOf f ++ ")" := by
  rw [bracket, textOf_text_cons, textOf_append h, textOf_text_cons, textOf_nil,
    String.append_empty, String.append_assoc]

/-! ### What is placed for a value -/

/-- The text of a value, or its placeholder, ends with a digit, a letter or a quote. -/
lemma endsVisibly_bind (b : Binding) (hint : String) (v : Value) :
    EndsVisibly (b.bind hint v).1.toList := by
  unfold bind
  split
  · exact b.dialect.endsVisibly_literal v
  · rw [toList_placeholder]
    refine (endsVisibly_toString (b.nextNumber hint)).of_suffix ?_
    exact (List.suffix_append _ _).trans (List.suffix_cons _ _)

/-! ### What is dropped and what is trimmed -/

/-- A blank fragment has no text. -/
lemma textOf_of_isBlank (h : f.isBlank = true) : b.textOf f = "" := by
  induction f generalizing b with
  | nil => rfl
  | cons piece rest ih =>
    rw [Fragment.isBlank, List.all_cons, Bool.and_eq_true] at h
    cases piece with
    | text s =>
      obtain rfl : s = "" := by simpa [Piece.isBlank] using h.1
      rw [textOf_text_cons, ih h.2]
      rfl
    | supply params => exact ih h.2
    | slot hint v => simp [Piece.isBlank] at h
    | refusal e => simp [Piece.isBlank] at h

/-- The fragments that are dropped are those that are written as the empty text. -/
lemma textOf_eq_empty_iff (h : f.error? = none) : b.textOf f = "" ↔ f.isBlank = true := by
  refine ⟨fun hempty => ?_, textOf_of_isBlank⟩
  induction f generalizing b with
  | nil => rfl
  | cons piece rest ih =>
    cases piece with
    | text s =>
      obtain ⟨rfl, hrest⟩ := String.append_eq_empty_iff.mp hempty
      exact ih h hrest
    | slot hint v =>
      obtain ⟨c, hc, -⟩ := b.endsVisibly_bind hint v
      rw [(String.append_eq_empty_iff.mp hempty).1] at hc
      cases hc
    | supply params => exact ih h hempty
    | refusal e => simp at h

/-- A trimmed fragment is written as the text of the fragment, trimmed at its end. -/
lemma textOf_trimEnd (h : f.error? = none) :
    b.textOf (trimEnd f) = Text.trimEnd (b.textOf f) := by
  induction f using List.reverseRecOn with
  | nil => rfl
  | append_singleton f piece ih =>
    rw [error?_append, Option.or_eq_none_iff] at h
    have hf := (error?_trimEnd f).mpr h.1
    cases piece with
    | text s =>
      rw [trimEnd_concat_text, textOf_append h.1, textOf_text_cons, textOf_nil,
        String.append_empty, Text.trimEnd_append]
      split
      · exact ih h.1
      · rw [textOf_append h.1, textOf_text_cons, textOf_nil, String.append_empty]
    | slot hint v =>
      -- the text of the value is there to stay
      have hvalue := (b.after f).endsVisibly_bind hint v
      have hslot : trimEnd (f ++ [.slot hint v]) = f ++ [.slot hint v] := trimEnd_append rfl
      have htext : b.textOf (f ++ [.slot hint v]) = b.textOf f ++ ((b.after f).bind hint v).1 := by
        rw [textOf_append h.1, textOf_slot_cons, textOf_nil, String.append_empty]
      rw [hslot, htext, Text.trimEnd_of_endsVisibly]
      rw [String.toList_append]
      exact hvalue.of_suffix (List.suffix_append _ _)
    | supply params =>
      have hnone (g : Fragment) (hg : g.error? = none) :
          b.textOf (g ++ [.supply params]) = b.textOf g := by
        rw [textOf_append hg]
        exact String.append_empty
      rw [trimEnd_concat_supply, hnone _ hf, hnone f h.1, ih h.1]
    | refusal e => cases h.2

/-- A query is written as its first member and the further ones, trimmed at both ends: it starts
with no blank. -/
lemma textOf_query {d : Dialect} {q : Query} (h : error? (q.withUnions d) = none) :
    b.textOf (q.fragment d) = Text.trim ((b.merge q.params).textOf (q.withUnions d)) := by
  have hstart : ∀ c ∈ ((b.merge q.params).textOf (q.withUnions d)).toList.head?,
      SqlCompose.isBlank c = false := by
    obtain ⟨f, hf | hf⟩ := q.exists_withUnions_eq_cons d <;> rw [hf, textOf_text_cons] <;>
      simp [isBlank, blankRuns]
  rw [q.fragment_eq, textOf_supply_cons, textOf_trimEnd h, Text.trim_eq_trimEnd hstart]

end Binding

end SqlCompose
