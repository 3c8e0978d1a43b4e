import Mathlib
import SqlCompose.Text.Split

/-!
# Texts that are cut or replaced

The pieces between separators and their join are inverse to each other where no piece has the
separator. A pattern has a first and a last place exactly if it stands somewhere. A text in which a
pattern is replaced is gone through place by place; that each quote is written twice is undone so.
-/

namespace SqlCompose

namespace Chars

variable {c sep : Char} {pattern before piece rest s : List Char}
  {ls pieces : List (List Char)}

/-! ### Pieces -/

lemma split_ne_nil (sep : Char) (s : List Char) : split sep s ≠ [] := by
  cases s with
  | nil => simp [split]
  | cons c s =>
    rw [split]
    split
    · simp
    · split <;> simp

/-- The first piece between separators stands at the start, and each piece stands somewhere. -/
lemma prefix_and_infix_of_split (h : split sep s = piece :: pieces) :
    piece <+: s ∧ ∀ p ∈ pieces, p <:+: s := by
  induction s generalizing piece pieces with
  | nil =>
    obtain ⟨rfl, rfl⟩ := List.cons.inj h
    simp
  | cons c s ih =>
    rw [split] at h
    obtain ⟨first, rest, hs⟩ := List.exists_cons_of_ne_nil (split_ne_nil sep s)
    obtain ⟨hfirst, hrest⟩ := ih hs
    rw [hs] at h
    split at h
    · obtain ⟨rfl, rfl⟩ := List.cons.inj h
      refine ⟨List.nil_prefix, ?_⟩
      intro p hp
      rcases List.mem_cons.mp hp with rfl | hp
      · exact hfirst.isInfix.trans (List.suffix_cons c s).isInfix
      · exact (hrest p hp).trans (List.suffix_cons c s).isInfix
    · obtain ⟨rfl, rfl⟩ := List.cons.inj h
      exact ⟨List.cons_prefix_cons.mpr ⟨rfl, hfirst⟩,
        fun p hp => (hrest p hp).trans (List.suffix_cons c s).isInfix⟩

lemma infix_of_mem_split (h : piece ∈ split sep s) : piece <:+: s := by
  obtain ⟨first, rest, hs⟩ := List.exists_cons_of_ne_nil (split_ne_nil sep s)
  obtain ⟨hfirst, hrest⟩ := prefix_and_infix_of_split hs
  rw [hs] at h
  rcases List.mem_cons.mp h with rfl | h
  · exact hfirst.isInfix
  · exact hrest piece h

/-- The pieces between separators hold all characters but the separators. -/
lemma flatMap_filter_split {p : Char → Bool} (h : p sep = false) (s : List Char) :
    (split sep s).flatMap (List.filter p) = s.filter p := by
  induction s with
  | nil => rfl
  | cons c s ih =>
    rw [split]
    split
    · rename_i hc
      simp [hc, h, ih]
    · cases hsplit : split sep s with
      | nil => exact absurd hsplit (split_ne_nil sep s)
      | cons piece pieces =>
        rw [hsplit, List.flatMap_cons] at ih
        simp only [List.flatMap_cons, List.filter_cons]
        split <;> simp [ih]

/-- The pieces are those that lists in general are split into. -/
lemma split_eq_splitOn (sep : Char) (s : List Char) : split sep s = s.splitOn sep := by
  induction s with
  | nil => rfl
  | cons c s ih =>
    obtain ⟨piece, pieces, hs⟩ := List.exists_cons_of_ne_nil (List.splitOn_ne_nil sep s)
    simp only [split, ih, hs, List.splitOn_cons_eq_if_modifyHead, beq_iff_eq]
    rfl

/-- No piece has the separator in it. -/
lemma not_mem_of_mem_splitOn (h : piece ∈ s.splitOn sep) : sep ∉ piece := by
  induction s generalizing piece with
  | nil =>
    obtain rfl := List.mem_singleton.mp h
    simp
  | cons c s ih =>
    obtain ⟨first, pieces, hs⟩ := List.exists_cons_of_ne_nil (List.splitOn_ne_nil sep s)
    rw [hs] at ih
    rw [List.splitOn_cons_eq_if_modifyHead, hs] at h
    split at h
    · rcases List.mem_cons.mp h with rfl | h
      · simp
      · exact ih h
    · rename_i hc
      rcases List.mem_cons.mp h with rfl | h
      · have hne : sep ≠ c := fun hsep => hc (beq_iff_eq.mpr hsep.symm)
        simpa [hne] using ih List.mem_cons_self
      · exact ih (List.mem_cons_of_mem _ h)

/-- There is one piece more than there are separators. -/
lemma length_splitOn (sep : Char) (s : List Char) :
    (s.splitOn sep).length = s.count sep + 1 := by
  induction s with
  | nil => rfl
  | cons c s ih =>
    rw [List.splitOn_cons_eq_if_modifyHead, List.count_cons]
    split <;> simp [ih]

lemma sum_count_splitOn (hc : c ≠ sep) (s : List Char) :
    ((s.splitOn sep).map (List.count c)).sum = s.count c := by
  induction s with
  | nil => rfl
  | cons c' s ih =>
    obtain ⟨piece, pieces, hs⟩ := List.exists_cons_of_ne_nil (List.splitOn_ne_nil sep s)
    rw [List.splitOn_cons_eq_if_modifyHead, List.count_cons, ← ih, hs]
    split
    · rename_i hsep
      obtain rfl := beq_iff_eq.mp hsep
      simp [hc.symm]
    · rw [List.modifyHead_cons, List.map_cons, List.map_cons, List.sum_cons, List.sum_cons,
        List.count_cons]
      omega

/-! ### Joins -/

/-- Texts without the separator can be told from their join. -/
lemma intercalate_inj {ls' : List (List Char)} (h : ∀ l ∈ ls, sep ∉ l) (hne : ls ≠ [])
    (h' : ∀ l ∈ ls', sep ∉ l) (hne' : ls' ≠ []) :
    [sep].intercalate ls = [sep].intercalate ls' ↔ ls = ls' := by
  refine ⟨fun heq => ?_, congrArg _⟩
  rw [← List.splitOn_intercalate sep h hne, heq, List.splitOn_intercalate sep h' hne']

/-- Joined texts have no characters but their own and the separator. -/
lemma eq_or_mem_of_mem_intercalate (h : c ∈ [sep].intercalate ls) : c = sep ∨ ∃ l ∈ ls, c ∈ l := by
  induction ls with
  | nil => simp at h
  | cons l ls ih =>
    cases ls with
    | nil => exact .inr ⟨l, List.mem_cons_self, by simpa using h⟩
    | cons l' ls =>
      rw [List.intercalate_cons_cons, List.mem_append, List.mem_append, List.mem_singleton] at h
      rcases h with (h | h) | h
      · exact .inr ⟨l, List.mem_cons_self, h⟩
      · exact .inl h
      · exact (ih h).imp_right fun ⟨m, hm, hc⟩ => ⟨m, List.mem_cons_of_mem l hm, hc⟩

lemma intercalate_concat (hne : ls ≠ []) (l : List Char) :
    [sep].intercalate (ls ++ [l]) = [sep].intercalate ls ++ sep :: l := by
  induction ls with
  | nil => exact absurd rfl hne
  | cons l' ls ih =>
    cases ls with
    | nil => simp
    | cons l'' ls => simpa using ih (by simp)

lemma suffix_intercalate_concat (sep : Char) (ls : List (List Char)) (l : List Char) :
    l <:+ [sep].intercalate (ls ++ [l]) := by
  by_cases hne : ls = []
  · simp [hne]
  · rw [intercalate_concat hne]
    exact (List.suffix_cons sep l).trans (List.suffix_append _ _)

/-- A join of texts is cut where the texts are, and where the separator was put. -/
lemma splitOn_intercalate (hne : ls ≠ []) :
    ([sep].intercalate ls).splitOn sep = ls.flatMap (List.splitOn sep) := by
  induction ls with
  | nil => exact absurd rfl hne
  | cons l ls ih =>
    cases ls with
    | nil => simp
    | cons l' ls =>
      rw [List.intercalate_cons_cons, List.append_assoc, List.singleton_append,
        List.splitOn_append_cons_self, ih (by simp), ← List.flatMap_cons]

/-- The pieces hold all characters but the separators. -/
lemma exists_mem_splitOn_iff (hc : c ≠ sep) : (∃ l ∈ s.splitOn sep, c ∈ l) ↔ c ∈ s := by
  refine ⟨fun ⟨l, hl, hmem⟩ => ?_, fun h => ?_⟩
  · rw [← split_eq_splitOn] at hl
    exact (infix_of_mem_split hl).subset hmem
  · have hs : [sep].intercalate (s.splitOn sep) = s := List.intercalate_splitOn sep
    rw [← hs] at h
    exact (eq_or_mem_of_mem_intercalate h).resolve_left hc

/-! ### The first and the last place of a pattern -/

/-- A pattern is found exactly if it stands in the text. -/
lemma splitFirst_eq_none_iff : splitFirst pattern s = none ↔ ¬pattern <:+: s := by
  induction s with
  | nil => simp [splitFirst]
  | cons c s ih =>
    rw [splitFirst, List.infix_cons_iff, ← List.isPrefixOf_iff_prefix]
    split <;> simp_all

/-- A pattern stands in a text exactly if some place of it is the first one. -/
lemma contains_eq_true_iff : contains pattern s = true ↔ pattern <:+: s := by
  rw [contains, Option.isSome_iff_ne_none, Ne, splitFirst_eq_none_iff, not_not]

/-- What is found is a place of the pattern. -/
lemma splitLast_eq_some (h : splitLast pattern s = some (before, rest)) :
    s = before ++ pattern ++ rest := by
  induction s generalizing before with
  | nil =>
    rw [splitLast] at h
    split at h
    · rename_i hempty
      obtain ⟨rfl, rfl⟩ := Prod.mk.inj (Option.some.inj h)
      rw [List.isEmpty_iff.mp hempty]
      rfl
    · simp at h
  | cons c s ih =>
    rw [splitLast] at h
    split at h
    · rename_i before' rest' hs
      obtain ⟨rfl, rfl⟩ := Prod.mk.inj (Option.some.inj h)
      rw [ih hs]
      rfl
    · split at h
      · rename_i hstart
        obtain ⟨rfl, rfl⟩ := Prod.mk.inj (Option.some.inj h)
        obtain ⟨t, ht⟩ := List.isPrefixOf_iff_prefix.mp hstart
        rw [← ht]
        simp
      · simp at h

lemma splitLast_eq_none_iff : splitLast pattern s = none ↔ ¬pattern <:+: s := by
  induction s with
  | nil => simp [splitLast]
  | cons c s ih =>
    rw [splitLast, List.infix_cons_iff, not_or]
    cases hsplit : splitLast pattern s with
    | none => simp [ih.mp hsplit]
    | some pieces =>
      have hoccurs : pattern <:+: s := by
        by_contra hnot
        simp [ih.mpr hnot] at hsplit
      simp [hoccurs]

/-- A pattern that does not start again further on stands at its last place. -/
lemma splitLast_append (h : ¬pattern <:+: (pattern ++ rest).tail) (before : List Char) :
    splitLast pattern (before ++ pattern ++ rest) = some (before, rest) := by
  induction before with
  | nil =>
    obtain ⟨c, pattern, rfl⟩ := List.exists_cons_of_ne_nil (l := pattern) (by
      rintro rfl
      exact h List.nil_infix)
    have hnone := splitLast_eq_none_iff.mpr h
    rw [List.cons_append, List.tail_cons] at hnone
    simp [splitLast, hnone]
  | cons c before ih =>
    rw [List.append_assoc] at ih
    simp [splitLast, ih]

/-- What stands before and after the last separator. -/
lemma exists_last_of_mem (h : sep ∈ s) :
    ∃ before rest, s = before ++ sep :: rest ∧ sep ∉ rest := by
  obtain ⟨as, bs, hs, has⟩ := List.eq_append_cons_of_mem (List.mem_reverse.mpr h)
  refine ⟨bs.reverse, as.reverse, ?_, by simpa using has⟩
  rw [← List.reverse_reverse s, hs]
  simp

/-! ### Where a pattern is replaced -/

variable {p r : List Char}

/-- Skipping characters is replacing in what comes after them. -/
lemma replaceFrom_eq (p r : List Char) (skip : ℕ) (s : List Char) :
    replaceFrom p r skip s = replace p r (s.drop skip) := by
  induction s generalizing skip with
  | nil => cases skip <;> rfl
  | cons c s ih =>
    cases skip with
    | zero => rfl
    | succ skip => exact ih skip

@[simp] lemma replace_nil (p r : List Char) : replace p r [] = [] := rfl

lemma replace_append_self (hp : p ≠ []) (r s : List Char) :
    replace p r (p ++ s) = r ++ replace p r s := by
  obtain ⟨c, q, rfl⟩ := List.exists_cons_of_ne_nil hp
  have hstart : (c :: q).isPrefixOf (c :: (q ++ s)) = true :=
    List.isPrefixOf_iff_prefix.mpr (List.prefix_append (c :: q) s)
  rw [List.cons_append, replace, replaceFrom, if_pos hstart, replaceFrom_eq, List.length_cons,
    Nat.add_sub_cancel, List.drop_left]

lemma replace_cons (r : List Char) (h : ¬p <+: c :: s) :
    replace p r (c :: s) = c :: replace p r s := by
  rw [← List.isPrefixOf_iff_prefix] at h
  exact if_neg h

/-- A text is empty, or the pattern stands at its start, or it has a character before the rest. -/
lemma replace_induction {motive : List Char → Prop} (hp : p ≠ []) (nil : motive [])
    (place : ∀ s, motive s → motive (p ++ s))
    (other : ∀ c s, ¬p <+: c :: s → motive s → motive (c :: s)) (s : List Char) : motive s := by
  induction hlength : s.length using Nat.strong_induction_on generalizing s with
  | _ length ih =>
    subst hlength
    cases s with
    | nil => exact nil
    | cons c s =>
      by_cases hstart : p <+: c :: s
      · obtain ⟨rest, hrest⟩ := hstart
        have hshort : rest.length < (c :: s).length := by
          rw [← hrest, List.length_append]
          have := List.length_pos_of_ne_nil hp
          omega
        rw [← hrest]
        exact place rest (ih _ hshort rest rfl)
      · exact other c s hstart (ih _ (Nat.lt_succ_self _) s rfl)

lemma replace_of_absent (r : List Char) (h : ¬p <:+: s) : replace p r s = s := by
  induction s with
  | nil => rfl
  | cons c s ih =>
    rw [replace_cons r fun hstart => h hstart.isInfix,
      ih fun hwithin => h (hwithin.trans (List.suffix_cons c s).isInfix)]

/-! ### Quotes written twice -/

/-- A text with each quote in it written twice. -/
def doubled (quote : Char) (s : List Char) : List Char := replaceChar quote [quote, quote] s

variable {quote : Char}

@[simp] lemma doubled_nil (quote : Char) : doubled quote [] = [] := rfl

lemma doubled_quote_cons (quote : Char) (s : List Char) :
    doubled quote (quote :: s) = quote :: quote :: doubled quote s := by
  simp [doubled, replaceChar]

lemma doubled_cons (hc : c ≠ quote) (s : List Char) :
    doubled quote (c :: s) = c :: doubled quote s := by
  simp [doubled, replaceChar, hc]

lemma doubled_append (quote : Char) (s t : List Char) :
    doubled quote (s ++ t) = doubled quote s ++ doubled quote t := List.flatMap_append

/-- Each quote makes a text one character longer. -/
lemma length_doubled (quote : Char) (s : List Char) :
    (doubled quote s).length = s.length + s.count quote := by
  induction s with
  | nil => rfl
  | cons c s ih =>
    by_cases hc : c = quote
    · subst hc
      rw [doubled_quote_cons, List.length_cons, List.length_cons, ih, List.length_cons,
        List.count_cons_self]
      omega
    · rw [doubled_cons hc, List.length_cons, ih, List.length_cons, List.count_cons_of_ne hc]
      omega

/-- Writing quotes twice adds no other character. -/
lemma count_doubled (hc : c ≠ quote) (s : List Char) : (doubled quote s).count c = s.count c := by
  induction s with
  | nil => rfl
  | cons x s ih =>
    by_cases hx : x = quote
    · subst hx
      rw [doubled_quote_cons, List.count_cons_of_ne hc.symm, List.count_cons_of_ne hc.symm, ih,
        List.count_cons_of_ne hc.symm]
    · rw [doubled_cons hx, List.count_cons, List.count_cons, ih]

lemma mem_doubled_iff : c ∈ doubled quote s ↔ c ∈ s := by
  simp only [doubled, replaceChar, List.mem_flatMap]
  constructor
  · rintro ⟨x, hx, hc⟩
    split_ifs at hc with hquote
    · obtain rfl : c = quote := by simpa using hc
      rwa [hquote] at hx
    · rwa [List.mem_singleton.mp hc]
  · intro hc
    refine ⟨c, hc, ?_⟩
    split_ifs with hquote <;> simp [hquote]

lemma doubled_eq_self_iff : doubled quote s = s ↔ quote ∉ s := by
  constructor
  · intro h
    have hlength := length_doubled quote s
    rw [h] at hlength
    exact List.count_eq_zero.mp (by omega)
  · intro h
    induction s with
    | nil => rfl
    | cons c s ih =>
      rw [List.mem_cons, not_or] at h
      rw [doubled_cons (Ne.symm h.1), ih h.2]

lemma head?_doubled (quote : Char) (s : List Char) : (doubled quote s).head? = s.head? := by
  cases s with
  | nil => rfl
  | cons c s =>
    by_cases hc : c = quote
    · subst hc
      rw [doubled_quote_cons, List.head?_cons, List.head?_cons]
    · rw [doubled_cons hc, List.head?_cons, List.head?_cons]

/-- Reading each pair of quotes as one gives the text back. -/
lemma replace_doubled (quote : Char) (s : List Char) :
    replace [quote, quote] [quote] (doubled quote s) = s := by
  induction s with
  | nil => rfl
  | cons c s ih =>
    by_cases hc : c = quote
    · subst hc
      have hpair := replace_append_self (p := [c, c]) (by simp) [c] (doubled c s)
      rw [ih] at hpair
      rw [doubled_quote_cons]
      exact hpair
    · have hstart : ¬[quote, quote] <+: c :: doubled quote s := by simp [Ne.symm hc]
      rw [doubled_cons hc, replace_cons _ hstart, ih]

end Chars

end SqlCompose
