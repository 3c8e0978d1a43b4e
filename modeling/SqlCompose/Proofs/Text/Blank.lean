import Mathlib
import SqlCompose.Text.Blank

/-!
# Trimmed texts

Trimming drops blanks at the ends of a text and nothing else, and what is left neither starts nor
ends with a blank. Of two texts in a row the end of the second is trimmed, or that of the first
where the second is blank.
-/

namespace SqlCompose

/-! ### Characters -/

lemma isBlank_of_isDigit {c : Char} (h : c.isDigit = true) : isBlank c = false := by
  have hrange : 48 ≤ c.toNat ∧ c.toNat ≤ 57 := by
    simpa [Char.isDigit, Char.le_def, UInt32.le_iff_toNat_le] using h
  simp only [isBlank, blankRuns, List.any_cons, List.any_nil, Bool.or_false, Bool.or_eq_false_iff,
    Bool.and_eq_false_iff, decide_eq_false_iff_not]
  omega

namespace Chars

variable {c : Char} {s t : List Char}

lemma trimStart_eq_self (h : ∀ c ∈ s.head?, isBlank c = false) : trimStart s = s := by
  cases s with
  | nil => rfl
  | cons c s =>
    have hc : isBlank c = false := h c rfl
    simp [trimStart, hc]

lemma trimEnd_eq_self (h : ∀ c ∈ s.getLast?, isBlank c = false) : trimEnd s = s := by
  rw [← List.head?_reverse] at h
  have hreverse : s.reverse.dropWhile isBlank = s.reverse := trimStart_eq_self h
  rw [trimEnd, hreverse, List.reverse_reverse]

lemma trim_eq_self (hstart : ∀ c ∈ s.head?, isBlank c = false)
    (hend : ∀ c ∈ s.getLast?, isBlank c = false) : trim s = s := by
  rw [trim, trimStart_eq_self hstart, trimEnd_eq_self hend]

lemma trim_blank_cons (hc : isBlank c = true) (s : List Char) : trim (c :: s) = trim s := by
  rw [trim, trim, trimStart, List.dropWhile_cons_of_pos hc, trimStart]

/-- Trimming drops blanks at the end and nothing else. -/
lemma exists_eq_trimEnd_append (s : List Char) :
    ∃ blanks, blanks.all isBlank = true ∧ s = trimEnd s ++ blanks := by
  refine ⟨(s.reverse.takeWhile isBlank).reverse, ?_, ?_⟩
  · rw [List.all_reverse]
    exact List.all_takeWhile
  · rw [trimEnd, ← List.reverse_append, List.takeWhile_append_dropWhile, List.reverse_reverse]

/-- Trimming drops blanks at the start and nothing else. -/
lemma exists_eq_append_trimStart (s : List Char) :
    ∃ blanks, (∀ c ∈ blanks, isBlank c = true) ∧ s = blanks ++ trimStart s :=
  ⟨s.takeWhile isBlank, fun _ hc => List.mem_takeWhile_imp hc,
    List.takeWhile_append_dropWhile.symm⟩

/-- A text is what is left of it when it is trimmed, between blanks. -/
lemma exists_eq_append_trim_append (s : List Char) :
    ∃ before after, s = before ++ trim s ++ after ∧ ∀ c ∈ before ++ after, isBlank c = true := by
  obtain ⟨before, hbefore, hstart⟩ := exists_eq_append_trimStart s
  obtain ⟨after, hafter, hend⟩ := exists_eq_trimEnd_append (trimStart s)
  refine ⟨before, after, ?_, List.forall_mem_append.mpr ⟨hbefore, List.all_eq_true.mp hafter⟩⟩
  rw [List.append_assoc, trim, ← hend]
  exact hstart

lemma trim_infix (s : List Char) : trim s <:+: s := by
  obtain ⟨before, after, h, -⟩ := exists_eq_append_trim_append s
  exact ⟨before, after, h.symm⟩

/-- Nothing is left of a text of blanks, and of no other text. -/
lemma trimEnd_eq_nil_iff : trimEnd s = [] ↔ ∀ c ∈ s, isBlank c = true := by
  simp [trimEnd, List.dropWhile_eq_nil_iff]

lemma trim_eq_nil_iff : trim s = [] ↔ ∀ c ∈ s, isBlank c = true := by
  constructor
  · intro h
    obtain ⟨before, after, hs, hblanks⟩ := exists_eq_append_trim_append s
    rw [h, List.append_nil] at hs
    rwa [hs]
  · intro h
    rw [trim, trimEnd_eq_nil_iff]
    intro c hc
    exact h c ((List.dropWhile_sublist _).subset hc)

/-- What is trimmed does not start with a blank. -/
lemma isBlank_head?_trim (s : List Char) : ∀ c ∈ (trim s).head?, isBlank c = false := by
  intro c hc
  obtain ⟨blanks, -, h⟩ := exists_eq_trimEnd_append (trimStart s)
  have hhead := List.head?_dropWhile_not isBlank s
  rw [← trimStart, h, List.head?_append, ← trim, hc] at hhead
  exact hhead

/-- What is trimmed at its end does not end with a blank. -/
lemma isBlank_getLast?_trimEnd (s : List Char) : ∀ c ∈ (trimEnd s).getLast?, isBlank c = false := by
  intro c hc
  rw [trimEnd, List.getLast?_reverse] at hc
  have hhead := List.head?_dropWhile_not isBlank s.reverse
  rw [hc] at hhead
  exact hhead

@[simp] lemma trimEnd_trimEnd (s : List Char) : trimEnd (trimEnd s) = trimEnd s :=
  trimEnd_eq_self (isBlank_getLast?_trimEnd s)

@[simp] lemma trim_trim (s : List Char) : trim (trim s) = trim s :=
  trim_eq_self (isBlank_head?_trim s) (isBlank_getLast?_trimEnd _)

/-- Trimming goes on in the first text only where the second is blank. -/
lemma trimEnd_append (s t : List Char) :
    trimEnd (s ++ t) = if t.all isBlank then trimEnd s else s ++ trimEnd t := by
  have hblank : (t.reverse.dropWhile isBlank).isEmpty = t.all isBlank := by
    rw [Bool.eq_iff_iff, List.isEmpty_iff, List.dropWhile_eq_nil_iff, List.all_eq_true]
    simp
  rw [trimEnd, List.reverse_append, List.dropWhile_append, hblank]
  split
  · rfl
  · rw [List.reverse_append, List.reverse_reverse, trimEnd]

/-- Trimming stops at a character that is no blank. -/
lemma trimEnd_append_cons (hc : isBlank c = false) (s t : List Char) :
    trimEnd (s ++ c :: t) = s ++ c :: trimEnd t := by
  have hcons : trimEnd ([c] ++ t) = c :: trimEnd t := by
    rw [trimEnd_append]
    split
    · rename_i hblank
      have hnil : trimEnd t = [] := trimEnd_eq_nil_iff.mpr (List.all_eq_true.mp hblank)
      rw [hnil]
      exact trimEnd_eq_self (by simpa using hc)
    · rfl
  rw [trimEnd_append, if_neg (by simp [hc])]
  exact congrArg (s ++ ·) hcons

/-- Blanks around a text that neither starts nor ends with one are trimmed, and nothing else. -/
lemma trim_append {before word after : List Char}
    (hstart : ∀ c ∈ word.head?, isBlank c = false) (hend : ∀ c ∈ word.getLast?, isBlank c = false)
    (hbefore : ∀ c ∈ before, isBlank c = true) (hafter : ∀ c ∈ after, isBlank c = true) :
    trim (before ++ word ++ after) = word := by
  rw [trim, trimStart, List.append_assoc, List.dropWhile_append_of_pos hbefore]
  cases word with
  | nil =>
    rw [List.nil_append, List.dropWhile_eq_nil_iff.mpr hafter]
    rfl
  | cons c word =>
    rw [List.cons_append, List.dropWhile_cons_of_neg (by simp [hstart c rfl]), ← List.cons_append,
      trimEnd_append, if_pos (List.all_eq_true.mpr hafter), trimEnd_eq_self hend]

end Chars

/-- A text that is not empty and does not end with a blank. -/
def EndsVisibly (s : List Char) : Prop := ∃ c, s.getLast? = some c ∧ isBlank c = false

/-- A text ends visibly if an end of it does. -/
lemma EndsVisibly.of_suffix {s t : List Char} (h : EndsVisibly s) (hsuffix : s <:+ t) :
    EndsVisibly t := by
  obtain ⟨c, hc, hblank⟩ := h
  obtain ⟨before, rfl⟩ := hsuffix
  exact ⟨c, by rw [List.getLast?_append, hc, Option.some_or], hblank⟩

/-- A text without blanks ends visibly if it is not empty. -/
lemma EndsVisibly.of_forall {s : List Char} (hne : s ≠ []) (h : ∀ c ∈ s, isBlank c = false) :
    EndsVisibly s :=
  ⟨s.getLast hne, List.getLast?_eq_some_getLast hne, h _ (List.getLast_mem hne)⟩

/-! ### Texts -/

namespace Text

variable {s t : String}

lemma isEmpty_trimEnd : (trimEnd s).isEmpty = isBlank s := by
  rw [Bool.eq_iff_iff, String.isEmpty_iff, trimEnd, ← String.toList_eq_nil_iff,
    String.toList_ofList, Chars.trimEnd_eq_nil_iff, isBlank, List.all_eq_true]

lemma isEmpty_trim : (trim s).isEmpty = isBlank s := by
  rw [Bool.eq_iff_iff, String.isEmpty_iff, trim, ← String.toList_eq_nil_iff,
    String.toList_ofList, Chars.trim_eq_nil_iff, isBlank, List.all_eq_true]

@[simp] lemma trimEnd_trimEnd (s : String) : trimEnd (trimEnd s) = trimEnd s := by
  apply String.toList_injective
  simp

/-- Trimming takes from the first text only where the second has nothing but blanks. -/
lemma trimEnd_append (s t : String) :
    trimEnd (s ++ t) = if isBlank t then trimEnd s else s ++ trimEnd t := by
  apply String.toList_injective
  rw [toList_trimEnd, String.toList_append, Chars.trimEnd_append, isBlank]
  split <;> simp

lemma trimEnd_of_endsVisibly (h : EndsVisibly s.toList) : trimEnd s = s := by
  obtain ⟨c, hc, hblank⟩ := h
  have hlast : ∀ x ∈ s.toList.getLast?, SqlCompose.isBlank x = false := by
    intro x hx
    rw [hc] at hx
    rwa [← Option.some.inj hx]
  rw [trimEnd, Chars.trimEnd_eq_self hlast, String.ofList_toList]

/-- Where no blank stands at the start, trimming is trimming at the end. -/
lemma trim_eq_trimEnd (h : ∀ c ∈ s.toList.head?, SqlCompose.isBlank c = false) :
    trim s = trimEnd s := by
  rw [trim, trimEnd, Chars.trim, Chars.trimStart_eq_self h]

lemma isBlank_eq_false_of_endsVisibly (h : EndsVisibly s.toList) : isBlank s = false := by
  obtain ⟨c, hc, hblank⟩ := h
  exact List.all_eq_false.mpr ⟨c, List.mem_of_getLast? hc, by simp [hblank]⟩

/-- A text is what is left of it when it is trimmed at its end, and blanks. -/
lemma exists_trimEnd_append (s : String) :
    ∃ blanks, isBlank blanks = true ∧ trimEnd s ++ blanks = s := by
  obtain ⟨blanks, hblanks, hs⟩ := Chars.exists_eq_trimEnd_append s.toList
  refine ⟨.ofList blanks, by rwa [isBlank, String.toList_ofList], ?_⟩
  apply String.toList_injective
  rw [String.toList_append, toList_trimEnd, String.toList_ofList, ← hs]

end Text

end SqlCompose
