import Mathlib
import SqlCompose.Proofs.Text.Blank
import SqlCompose.Query.Fluent

/-!
# Tables written as text

A text without commas and parentheses is a list of one part, and a text that neither starts nor ends
with a blank is trimmed already. Such a text names a table without an alias if it has no blank at
all. If a last word stands after a space in it, it is cut at a blank: the table is what stands
before the blank, and the alias is an end of what stands after it.
-/

namespace SqlCompose

/-! ### Blanks -/

/-- The code points of the blanks. -/
def blankPoints : List Nat :=
  blankRuns.flatMap fun (first, last) => List.range' first (last + 1 - first)

lemma mem_blankPoints_of_isBlank {c : Char} (h : isBlank c = true) : c.toNat ∈ blankPoints := by
  obtain ⟨⟨first, last⟩, hrun, hpoint⟩ := List.any_eq_true.mp h
  rw [Bool.and_eq_true, decide_eq_true_eq, decide_eq_true_eq] at hpoint
  refine List.mem_flatMap.mpr ⟨(first, last), hrun, ?_⟩
  rw [List.mem_range'_1]
  omega

/-- No blank may stand in a word. -/
lemma isWordChar_eq_false_of_isBlank {c : Char} (h : isBlank c = true) : isWordChar c = false := by
  have hpoints : ∀ n ∈ blankPoints, isWordChar (Char.ofNat n) = false := by decide +kernel
  have hchar := hpoints _ (mem_blankPoints_of_isBlank h)
  rwa [Char.ofNat_toNat] at hchar

namespace ListText

variable {s u w table label : List Char}

/-! ### Lists of one part -/

/-- Without commas and parentheses there is one part only. -/
lemma cut_eq_singleton (hcomma : ',' ∉ s) (hopen : '(' ∉ s) (hclose : ')' ∉ s) :
    cut 0 s = [s] := by
  induction s with
  | nil => rfl
  | cons c s ih =>
    rw [List.mem_cons, not_or] at hcomma hopen hclose
    have hdepth : depthAfter 0 c = 0 := by
      rw [depthAfter, if_neg (Ne.symm hopen.1), if_neg (Ne.symm hclose.1)]
    have hc : ¬(c = ',' ∧ 0 = 0) := fun hc => hcomma.1 hc.1.symm
    rw [cut, if_neg hc, hdepth, ih hcomma.2 hopen.2 hclose.2]

/-- A trimmed text without commas and parentheses is the only part of the list that it is. -/
lemma parts_eq_singleton (hne : s ≠ []) (hcomma : ',' ∉ s) (hopen : '(' ∉ s) (hclose : ')' ∉ s)
    (htrim : Chars.trim s = s) : parts (.ofList s) = [.ofList s] := by
  rw [parts, String.toList_ofList, cut_eq_singleton hcomma hopen hclose, List.map_singleton, htrim]
  simp [hne]

/-! ### Aliases -/

/-- A text without blanks has no alias. -/
lemma tableAlias?_eq_none (h : ∀ c ∈ s, isBlank c = false) : tableAlias? s = none := by
  induction s with
  | nil => rfl
  | cons c s ih =>
    rw [List.forall_mem_cons] at h
    simp [tableAlias?, h.1, ih h.2]

/-- A word after a space is an alias. -/
lemma aliasAfterBlanks?_space (hne : w ≠ []) (hw : ∀ c ∈ w, isBlank c = false) :
    aliasAfterBlanks? (' ' :: w) = some w := by
  have hplain : Chars.trimStart (' ' :: w) = w := by
    have hspace : isBlank ' ' = true := by decide
    have hword : Chars.trimStart w = w :=
      Chars.trimStart_eq_self fun c hc => hw c (List.mem_of_mem_head? hc)
    rw [Chars.trimStart, List.dropWhile_cons_of_pos hspace]
    exact hword
  have hnamed : (w.drop 2).head?.any isBlank = false := by
    cases hdrop : w.drop 2 with
    | nil => rfl
    | cons c rest =>
      have hmem : c ∈ w := List.mem_of_mem_drop (hdrop ▸ List.mem_cons_self)
      exact hw c hmem
  have hlast : ' ' ∉ w := fun hmem => absurd (hw _ hmem) (by decide)
  simp only [aliasAfterBlanks?, hplain, hnamed]
  simp [hne, hlast]

/-- An alias is an end of the text after the table. -/
lemma suffix_of_aliasAfterBlanks? (h : aliasAfterBlanks? s = some label) : label <:+ s := by
  have hplain : Chars.trimStart s <:+ s := List.dropWhile_suffix _
  have hnamed : Chars.trimStart ((Chars.trimStart s).drop 2) <:+ s :=
    (List.dropWhile_suffix _).trans ((List.drop_suffix 2 _).trans hplain)
  simp only [aliasAfterBlanks?] at h
  split at h
  · obtain rfl := Option.some.inj h
    exact hnamed
  · split at h
    · obtain rfl := Option.some.inj h
      exact hplain
    · cases h

/-- A table with an alias is cut at a blank. -/
lemma exists_of_tableAlias? (h : tableAlias? s = some (table, label)) :
    ∃ c rest, s = table ++ c :: rest ∧ isBlank c = true ∧ label <:+ c :: rest := by
  induction s generalizing table with
  | nil => cases h
  | cons c s ih =>
    -- the alias stands after this character, or the table goes on with it
    have hfurther (hs : (if c = '\n' then none
        else (tableAlias? s).map fun p => (c :: p.1, p.2)) = some (table, label)) :
        ∃ c' rest, c :: s = table ++ c' :: rest ∧ isBlank c' = true ∧ label <:+ c' :: rest := by
      split at hs
      · cases hs
      · obtain ⟨⟨table', label'⟩, htail, heq⟩ := Option.map_eq_some_iff.mp hs
        obtain ⟨rfl, rfl⟩ := Prod.mk.inj heq
        obtain ⟨c', rest, rfl, hblank, hsuffix⟩ := ih htail
        exact ⟨c', rest, rfl, hblank, hsuffix⟩
    rw [tableAlias?] at h
    split at h
    · rename_i hblank
      split at h
      · rename_i hlabel
        obtain ⟨rfl, rfl⟩ := Prod.mk.inj (Option.some.inj h)
        exact ⟨c, s, rfl, hblank, suffix_of_aliasAfterBlanks? hlabel⟩
      · exact hfurther h
    · exact hfurther h

/-- A text on one line that has a word after a space has an alias. -/
lemma exists_tableAlias? (hline : '\n' ∉ u) (hne : w ≠ []) (hw : ∀ c ∈ w, isBlank c = false) :
    ∃ p, tableAlias? (u ++ ' ' :: w) = some p := by
  induction u with
  | nil =>
    have hspace : isBlank ' ' = true := by decide
    rw [List.nil_append, tableAlias?, if_pos hspace, aliasAfterBlanks?_space hne hw]
    exact ⟨_, rfl⟩
  | cons c u ih =>
    rw [List.mem_cons, not_or] at hline
    obtain ⟨⟨table, label⟩, htail⟩ := ih hline.2
    rw [List.cons_append, tableAlias?, htail, if_neg (Ne.symm hline.1)]
    split
    · split <;> exact ⟨_, rfl⟩
    · exact ⟨_, rfl⟩

end ListText

end SqlCompose
