import Mathlib
import SqlCompose.Proofs.Draft
import SqlCompose.Proofs.Fragment.Trim

/-!
# The ink of a statement

The ink of a text is the number of its characters without blanks and digits. Placeholders differ in
their numbers only, and trimming drops blanks only, so the ink of what is written is the ink of its
pieces, whatever names were taken before: two statements of different ink are different.
-/

namespace SqlCompose

/-- The number of characters that are no blanks and no digits. -/
def Chars.ink (s : List Char) : ℕ := s.countP fun c => !c.isDigit && !isBlank c

def Text.ink (s : String) : ℕ := Chars.ink s.toList

/-! ### Texts -/

lemma Chars.ink_append (s t : List Char) : ink (s ++ t) = ink s + ink t := List.countP_append

lemma Chars.ink_reverse (s : List Char) : ink s.reverse = ink s := List.countP_reverse

lemma Chars.ink_dropWhile_isBlank (s : List Char) : ink (s.dropWhile isBlank) = ink s := by
  induction s with
  | nil => rfl
  | cons c s ih =>
    cases hc : isBlank c with
    | true => simpa [ink, hc] using ih
    | false => rw [List.dropWhile_cons_of_neg (by simp [hc])]

namespace Text

@[simp] lemma ink_append (s t : String) : ink (s ++ t) = ink s + ink t := by
  rw [ink, String.toList_append, Chars.ink_append]
  rfl

@[simp] lemma ink_empty : ink "" = 0 := rfl

@[simp] lemma ink_trimEnd (s : String) : ink (trimEnd s) = ink s := by
  rw [ink, toList_trimEnd, Chars.trimEnd, Chars.ink_reverse, Chars.ink_dropWhile_isBlank,
    Chars.ink_reverse]
  rfl

/-- A number has no ink. -/
lemma ink_toString (n : ℕ) : ink (toString n) = 0 := by
  rw [ink, Chars.ink, List.countP_eq_zero]
  intro c hc
  rw [Nat.toString_eq_ofList_toDigits, String.toList_ofList] at hc
  simp [Nat.isDigit_of_mem_toDigits (by decide) (by decide) hc]

end Text

/-! ### Fragments -/

namespace Binding

variable {b : Binding} {f g : Fragment}

/-- The ink of what is written for a piece. -/
def inkOfPiece (b : Binding) : Piece → ℕ
  | .text s => Text.ink s
  | .slot hint v =>
    if b.inline then Text.ink (b.dialect.literal v) else Text.ink (":" ++ base hint)
  | .supply _ | .refusal _ => 0

def ink (b : Binding) (f : Fragment) : ℕ := (f.map b.inkOfPiece).sum

@[simp] lemma ink_nil : b.ink [] = 0 := rfl

@[simp] lemma ink_cons (piece : Piece) (f : Fragment) :
    b.ink (piece :: f) = b.inkOfPiece piece + b.ink f := rfl

@[simp] lemma ink_append (f g : Fragment) : b.ink (f ++ g) = b.ink f + b.ink g := by
  rw [ink, List.map_append, List.sum_append]
  rfl

@[simp] lemma ink_reverse (f : Fragment) : b.ink f.reverse = b.ink f := by
  rw [ink, List.map_reverse, List.sum_reverse]
  rfl

/-- Blanks have no ink, so trimming loses none. -/
lemma ink_trimReversed (f : Fragment) : b.ink (Fragment.trimReversed f) = b.ink f := by
  induction f with
  | nil => rfl
  | cons piece f ih =>
    cases piece with
    | text s =>
      have hkept := Text.ink_trimEnd s
      simp only [Fragment.trimReversed]
      split
      · rename_i hempty
        rw [String.isEmpty_iff.mp hempty, Text.ink_empty] at hkept
        rw [ih, ink_cons, inkOfPiece, ← hkept, Nat.zero_add]
      · rw [ink_cons, ink_cons, inkOfPiece, inkOfPiece, hkept]
    | supply params => exact congrArg (0 + ·) ih
    | slot | refusal => rfl

@[simp] lemma ink_trimEnd (f : Fragment) : b.ink (Fragment.trimEnd f) = b.ink f := by
  rw [Fragment.trimEnd, ink_reverse, ink_trimReversed, ink_reverse]

/-- Fragments joined by blanks have the ink of all of them. -/
lemma ink_joinFrom {sep : String} (hsep : Text.ink sep = 0) (started : Bool)
    (fs : List Fragment) :
    b.ink (Fragment.joinFrom sep started fs) = (fs.map b.ink).sum := by
  induction fs generalizing started with
  | nil => rfl
  | cons f fs ih =>
    rw [Fragment.joinFrom, List.map_cons, List.sum_cons]
    split
    · rw [ink_append, ih]
    · cases started <;> simp [ih, inkOfPiece, hsep]

/-- What is placed for a value has the ink of its piece, whatever number it gets. -/
lemma ink_bind (b : Binding) (hint : String) (v : Value) :
    Text.ink (b.bind hint v).1 = b.inkOfPiece (.slot hint v) := by
  unfold bind inkOfPiece
  split
  · rfl
  · dsimp only
    rw [placeholder, Text.ink_append, Text.ink_toString, Nat.add_zero]

/-- Only the dialect and the mode of a binding decide how much ink is written. -/
lemma ink_congr {b' : Binding} (hdialect : b'.dialect = b.dialect) (hinline : b'.inline = b.inline)
    (f : Fragment) : b'.ink f = b.ink f := by
  have hpiece : b'.inkOfPiece = b.inkOfPiece := by
    funext piece
    cases piece <;> simp [inkOfPiece, hdialect, hinline]
  rw [ink, hpiece]
  rfl

/-- The ink of a written text is that of its pieces. -/
lemma ink_fill (h : f.error? = none) : Text.ink (f.fill (b.placedNames f)) = b.ink f := by
  induction f generalizing b with
  | nil => rfl
  | cons piece f ih =>
    cases piece with
    | text s =>
      have hrest : Text.ink (Fragment.fill f (b.placedNames f)) = b.ink f := ih h
      rw [Fragment.fill, Text.ink_append, placedNames, placed, ink_cons, ← hrest]
      rfl
    | slot hint v =>
      have hrest : Text.ink (Fragment.fill f ((b.bind hint v).2.placedNames f)) = b.ink f := by
        rw [ih h, ink_congr bind_snd_dialect bind_snd_inline]
      rw [placedNames, placed, List.map_cons, Fragment.fill, Text.ink_append, ink_bind, ink_cons,
        ← hrest]
      rfl
    | supply params =>
      have hrest : Text.ink (Fragment.fill f ((b.merge params).placedNames f)) = b.ink f := by
        rw [ih h, ink_congr (merge_dialect params) (merge_inline params)]
      rw [placedNames, placed, Fragment.fill, ink_cons, ← hrest]
      exact (Nat.zero_add _).symm
    | refusal e => cases h

end Binding

/-- A written statement has the ink of its fragment. -/
lemma Builder.ink_of_write {b : Builder} {s : Draft} {out : Built} (h : b.write s = .ok out) :
    Text.ink out.sql =
      (Binding.start b.dialect b.inlineValues).ink (s.fragment b.dialect b.schema) := by
  rw [sql_of_write h]
  exact Binding.ink_fill (b := b.startFor s) (error?_eq_none_of_write h)

end SqlCompose
