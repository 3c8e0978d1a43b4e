import Mathlib
import SqlCompose.Fragment.Basic
import SqlCompose.Proofs.Text.Blank

/-!
# Joining and trimming fragments

What is joined or trimmed in two steps. Blanks are dropped from the end of a fragment up to the last
piece that has another character or a value; what stands before such a piece stays as it is.
-/

namespace SqlCompose

/-- Whether trimming stops at a piece. -/
def Piece.stops : Piece → Bool
  | .text s => !Text.isBlank s
  | .supply _ => false
  | _ => true

namespace Fragment

variable {f g : Fragment}

/-! ### Joining -/

/-- Whether a separator is needed depends on whether anything before it has a text. -/
lemma joinFrom_append (sep : String) (started : Bool) (fs gs : List Fragment) :
    joinFrom sep started (fs ++ gs) =
      joinFrom sep started fs ++ joinFrom sep (started || fs.any (!·.isBlank)) gs := by
  induction fs generalizing started with
  | nil => simp [joinFrom]
  | cons f fs ih =>
    rw [List.cons_append, joinFrom, joinFrom, ih, ih]
    cases hblank : f.isBlank <;> simp [hblank]

/-- With a separator before them, joined fragments have one before each of them. -/
lemma text_cons_join {sep : String} {fs : List Fragment} (h : fs ≠ []) :
    .text sep :: join sep fs = fs.flatMap (.text sep :: ·) := by
  unfold join
  induction fs with
  | nil => exact absurd rfl h
  | cons f fs ih =>
    cases fs with
    | nil => simp
    | cons g fs =>
      rw [List.intercalate_cons_cons, List.flatMap_cons, ← ih (by simp)]
      simp

/-! ### Trimming -/

/-- Trimming from the end does not go past a piece that it stops at. -/
lemma trimReversed_append (h : f.any Piece.stops = true) :
    trimReversed (f ++ g) = trimReversed f ++ g := by
  induction f with
  | nil => simp at h
  | cons piece rest ih =>
    rw [List.any_cons, Bool.or_eq_true] at h
    cases piece with
    | text s =>
      simp only [List.cons_append, trimReversed, Text.isEmpty_trimEnd]
      split
      · rename_i hblank
        exact ih (h.resolve_left (by simp [Piece.stops, hblank]))
      · rfl
    | supply params =>
      simp only [List.cons_append, trimReversed]
      rw [ih (h.resolve_left (by simp [Piece.stops]))]
    | slot | refusal => rfl

/-- Nothing is dropped before a piece that trimming stops at. -/
lemma trimEnd_append (h : g.any Piece.stops = true) : trimEnd (f ++ g) = f ++ trimEnd g := by
  rw [trimEnd, List.reverse_append, trimReversed_append (by simpa using h), List.reverse_append,
    List.reverse_reverse]
  rfl

/-- What stands before a piece that trimming stops at is kept. -/
lemma trimEnd_cons {piece : Piece} (h : f.any Piece.stops = true) :
    trimEnd (piece :: f) = piece :: trimEnd f := by
  have happend := trimEnd_append (f := [piece]) h
  exact happend

/-- Parameters have no text and are kept. -/
lemma trimEnd_supply_cons (params : Params) (f : Fragment) :
    trimEnd (.supply params :: f) = .supply params :: trimEnd f := by
  have hreversed (g : Fragment) :
      trimReversed (g ++ [.supply params]) = trimReversed g ++ [.supply params] := by
    induction g with
    | nil => rfl
    | cons piece rest ih =>
      cases piece with
      | text s =>
        simp only [List.cons_append, trimReversed]
        split
        · exact ih
        · rfl
      | supply => exact congrArg (_ :: ·) ih
      | slot | refusal => rfl
  rw [trimEnd, List.reverse_cons, hreversed, List.reverse_append]
  rfl

/-- The end of a last text is trimmed; a blank one is dropped, and what stands before it trimmed. -/
lemma trimEnd_concat_text (f : Fragment) (s : String) : trimEnd (f ++ [.text s]) =
    if Text.isBlank s then trimEnd f else f ++ [.text (Text.trimEnd s)] := by
  rw [trimEnd, List.reverse_append, List.reverse_singleton, List.singleton_append, trimReversed]
  simp only [Text.isEmpty_trimEnd]
  split
  · rfl
  · simp

lemma trimEnd_concat_empty (f : Fragment) : trimEnd (f ++ [.text ""]) = trimEnd f :=
  trimEnd_concat_text f ""

/-- Nothing is dropped from a text that does not end with a blank. -/
lemma trimEnd_concat_of_endsVisibly {s : String} (h : EndsVisibly s.toList) (f : Fragment) :
    trimEnd (f ++ [.text s]) = f ++ [.text s] := by
  rw [trimEnd_concat_text, Text.isBlank_eq_false_of_endsVisibly h, if_neg (by decide),
    Text.trimEnd_of_endsVisibly h]

/-- Trimming stops at a text that ends visibly. -/
lemma stops_of_endsVisibly {s : String} (h : EndsVisibly s.toList) :
    (Piece.text s).stops = true := by
  rw [Piece.stops, Text.isBlank_eq_false_of_endsVisibly h]
  rfl

/-- Supplied parameters have no text and stay behind what is trimmed. -/
lemma trimEnd_concat_supply (f : Fragment) (params : Params) :
    trimEnd (f ++ [.supply params]) = trimEnd f ++ [.supply params] := by
  rw [trimEnd, List.reverse_append, List.reverse_singleton, List.singleton_append, trimReversed,
    List.reverse_cons]
  rfl

lemma trimEnd_bracket (f : Fragment) : trimEnd (bracket f) = bracket f :=
  trimEnd_append (f := .text "(" :: f) rfl

lemma any_stops_trimReversed (f : Fragment) :
    (trimReversed f).any Piece.stops = f.any Piece.stops := by
  induction f with
  | nil => rfl
  | cons piece rest ih =>
    cases piece with
    | text s =>
      simp only [trimReversed, Text.isEmpty_trimEnd]
      split
      · rename_i hblank
        rw [ih, List.any_cons, Piece.stops, hblank]
        rfl
      · rename_i hblank
        rw [List.any_cons, List.any_cons, Piece.stops, Piece.stops, ← Text.isEmpty_trimEnd,
          Text.trimEnd_trimEnd, Text.isEmpty_trimEnd]
    | supply params => rw [trimReversed, List.any_cons, List.any_cons, ih]
    | slot | refusal => rfl

@[simp] lemma any_stops_trimEnd (f : Fragment) :
    (trimEnd f).any Piece.stops = f.any Piece.stops := by
  rw [trimEnd, List.any_reverse, any_stops_trimReversed, List.any_reverse]

lemma trimReversed_trimReversed (f : Fragment) :
    trimReversed (trimReversed f) = trimReversed f := by
  induction f with
  | nil => rfl
  | cons piece rest ih =>
    cases piece with
    | text s =>
      simp only [trimReversed]
      split
      · exact ih
      · rename_i hblank
        rw [trimReversed, Text.trimEnd_trimEnd]
        exact if_neg hblank
    | supply params => rw [trimReversed, trimReversed, ih]
    | slot | refusal => rfl

/-- Trimming twice changes nothing more. -/
lemma trimEnd_trimEnd (f : Fragment) : trimEnd (trimEnd f) = trimEnd f := by
  rw [trimEnd, trimEnd, List.reverse_reverse, trimReversed_trimReversed]

end Fragment

end SqlCompose
