import Mathlib
import SqlCompose.Proofs.Quoting.Segment

/-!
# Names that are quoted already

Each segment of a quoted name has an opening quote or is the star of a column, so quoting the name
again changes nothing. A name that is quoted by hand is cut at every dot, those between its quotes
too, and a piece without an opening quote is quoted once more. Such a name is kept if each piece
still has an opening quote: no dot may stand between two quotes, or one where they are the same.
-/

namespace SqlCompose

variable {d : Dialect} {name : String}

namespace Dialect

/-! ### Quoting again -/

/-- A quoted name has the opening quote, so it is not quoted again. -/
lemma opening_mem_partChars (cs : List Char) : d.nameQuotes.1 ∈ d.partChars (.identifier cs) := by
  rw [partChars]
  split
  · assumption
  · exact List.mem_cons_self

lemma paren_not_mem_nameChars {parts : List NamePart} (h : ∀ p ∈ parts, '(' ∉ p.chars) :
    '(' ∉ d.nameChars parts := by
  have hquotes : '(' ≠ d.nameQuotes.1 ∧ '(' ≠ d.nameQuotes.2 := by cases d <;> decide
  intro hmem
  rcases Chars.eq_or_mem_of_mem_intercalate hmem with hdot | ⟨l, hl, hmem⟩
  · exact absurd hdot (by decide)
  · obtain ⟨p, hp, rfl⟩ := List.mem_map.mp hl
    rcases mem_partChars hmem with hquote | hquote | hpart
    · exact hquotes.1 hquote
    · exact hquotes.2 hquote
    · exact h p hp hpart

/-- What is written for the segments of a quoted name is what is written for the name itself. -/
lemma map_partChars_identifier (segments : List (List Char)) :
    ((((segments.map NamePart.identifier).map d.partChars).map .identifier).map d.partChars) =
      (segments.map NamePart.identifier).map d.partChars := by
  simp only [List.map_map]
  exact List.map_congr_left fun cs _ => if_pos (opening_mem_partChars cs)

/-- Quoting each part of a column's name twice changes nothing more. -/
lemma map_partChars_ofColumn (segments : List (List Char)) :
    (NamePart.ofColumn ((NamePart.ofColumn segments).map d.partChars)).map d.partChars =
      (NamePart.ofColumn segments).map d.partChars := by
  rcases List.eq_nil_or_concat' segments with rfl | ⟨before, last, rfl⟩
  · rfl
  · have hlast (p : NamePart) :
        d.partChars (if d.partChars p = ['*'] then .star else .identifier (d.partChars p)) =
          d.partChars p := by
      cases p with
      | star => rfl
      | identifier cs =>
        have hopening := opening_mem_partChars (d := d) cs
        have hstar : d.partChars (.identifier cs) ≠ ['*'] := by
          intro hstar
          rw [hstar, List.mem_singleton] at hopening
          exact absurd hopening (by cases d <;> decide)
        rw [if_neg hstar]
        exact if_pos hopening
    rw [NamePart.ofColumn_concat, List.map_append, List.map_singleton, NamePart.ofColumn_concat,
      List.map_append, List.map_singleton, map_partChars_identifier, hlast]

lemma quoteTable_of_isVerbatimName (h : isVerbatimName name = true) : d.quoteTable name = name :=
  if_pos h

lemma quoteColumn_of_isVerbatimName (h : isVerbatimName name = true) :
    d.quoteColumn name = name :=
  if_pos h

/-- What is written for the segments of a name without parentheses is not verbatim, as it opens no
reference. -/
lemma isVerbatimName_of_nameChars {parts : List NamePart} {quoted : String}
    (hparts : parts.map NamePart.chars = name.toList.splitOn '.') (hparen : '(' ∉ name.toList)
    (hquoted : quoted.toList = d.nameChars parts) (hplain : IsPlainText quoted) :
    isVerbatimName quoted = false := by
  refine isVerbatimName_eq_false_iff.mpr ⟨?_, hplain⟩
  rw [hquoted]
  exact paren_not_mem_nameChars
    ((NamePart.forall_not_mem_iff_of_segments hparts (by decide)).mpr hparen)

/-- The name of a table that is quoted twice is written as if it were quoted once. -/
lemma quoteTable_quoteTable (name : String) :
    d.quoteTable (d.quoteTable name) = d.quoteTable name := by
  cases h : isVerbatimName name with
  | true => rw [quoteTable_of_isVerbatimName h, quoteTable_of_isVerbatimName h]
  | false =>
    obtain ⟨hparen, hplain⟩ := isVerbatimName_eq_false_iff.mp h
    have hparts := NamePart.map_chars_identifier (name.toList.splitOn '.')
    have hquoted : isVerbatimName (d.quoteTable name) = false :=
      isVerbatimName_of_nameChars hparts hparen (toList_quoteTable h) hplain.quoteTable
    apply String.toList_injective
    rw [toList_quoteTable hquoted, toList_quoteTable h, splitOn_nameChars hparts, nameChars,
      map_partChars_identifier, ← nameChars]

/-- The name of a column that is quoted twice is written as if it were quoted once. -/
lemma quoteColumn_quoteColumn (name : String) :
    d.quoteColumn (d.quoteColumn name) = d.quoteColumn name := by
  cases h : isVerbatimName name with
  | true => rw [quoteColumn_of_isVerbatimName h, quoteColumn_of_isVerbatimName h]
  | false =>
    obtain ⟨hparen, hplain⟩ := isVerbatimName_eq_false_iff.mp h
    have hparts := NamePart.map_chars_ofColumn (name.toList.splitOn '.')
    have hquoted : isVerbatimName (d.quoteColumn name) = false :=
      isVerbatimName_of_nameChars hparts hparen (toList_quoteColumn h) hplain.quoteColumn
    apply String.toList_injective
    rw [toList_quoteColumn hquoted, toList_quoteColumn h, splitOn_nameChars hparts, nameChars,
      map_partChars_ofColumn, ← nameChars]

/-- Quoting a name that is quoted already changes nothing. -/
theorem quote_idempotent (d : Dialect) (name : String) :
    d.quoteTable (d.quoteTable name) = d.quoteTable name ∧
      d.quoteColumn (d.quoteColumn name) = d.quoteColumn name :=
  ⟨quoteTable_quoteTable name, quoteColumn_quoteColumn name⟩

end Dialect

/-! ### Quoting what is quoted by hand -/

namespace Dialect

/-- A segment with one dot is cut there, each piece keeping one of the quotes. -/
lemma splitOn_enclosed {before after : List Char} (hbefore : '.' ∉ before) (hafter : '.' ∉ after) :
    (d.enclosed (before ++ '.' :: after)).splitOn '.' =
      [d.nameQuotes.1 :: before, after ++ [d.nameQuotes.2]] := by
  have hfirst : '.' ∉ d.nameQuotes.1 :: before := by
    simpa [hbefore] using d.nameQuotes_ne_dot.1.symm
  have hlast : '.' ∉ after ++ [d.nameQuotes.2] := by
    simpa [hafter] using d.nameQuotes_ne_dot.2.symm
  rw [enclosed, List.append_assoc, List.cons_append, ← List.cons_append,
    List.splitOn_append_cons_self_of_not_mem hfirst, List.splitOn_eq_singleton hlast]

/-- A segment between quotes is cut into pieces with an opening quote each, exactly if it has no dot
between its quotes, or one where the closing quote is an opening one too. -/
lemma opening_mem_splitOn_enclosed_iff {cs : List Char} (h : d.nameQuotes.1 ∉ cs) :
    (∀ piece ∈ (d.enclosed cs).splitOn '.', d.nameQuotes.1 ∈ piece) ↔
      cs.count '.' ≤ if d.nameQuotes.1 = d.nameQuotes.2 then 1 else 0 := by
  obtain ⟨hopening, hclosing⟩ := d.nameQuotes_ne_dot
  have hdots : (d.enclosed cs).count '.' = cs.count '.' := by
    simp [enclosed, hopening, hclosing]
  have hquotes : (d.enclosed cs).count d.nameQuotes.1 =
      1 + if d.nameQuotes.1 = d.nameQuotes.2 then 1 else 0 := by
    rw [enclosed, List.count_cons_self, List.count_append, List.count_eq_zero.mpr h]
    cases d <;> rfl
  constructor
  · -- Each piece has an opening quote, and the pieces share those of the whole.
    intro hall
    have hle := List.length_le_sum_of_one_le
      (((d.enclosed cs).splitOn '.').map (List.count d.nameQuotes.1)) ?_
    · rw [List.length_map, Chars.length_splitOn, Chars.sum_count_splitOn hopening, hdots,
        hquotes] at hle
      omega
    · rw [List.forall_mem_map]
      exact fun piece hpiece => List.count_pos_iff.mpr (hall piece hpiece)
  · intro hle piece hpiece
    by_cases hdot : '.' ∈ cs
    · obtain ⟨before, after, rfl, hbefore⟩ := List.eq_append_cons_of_mem hdot
      rw [List.count_append, List.count_cons_self] at hle
      split at hle
      · rename_i hsame
        have hafter : '.' ∉ after := List.count_eq_zero.mp (by omega)
        rw [splitOn_enclosed hbefore hafter, List.mem_pair] at hpiece
        rcases hpiece with rfl | rfl
        · exact List.mem_cons_self
        · simp [hsame]
      · omega
    · rw [List.splitOn_eq_singleton (dot_not_mem_enclosed hdot), List.mem_singleton] at hpiece
      rw [hpiece]
      exact List.mem_cons_self

/-- A name that is not verbatim is kept exactly if each of its segments has an opening quote. -/
lemma quoteTable_eq_self_iff (h : isVerbatimName name = false) :
    d.quoteTable name = name ↔
      ∀ piece ∈ name.toList.splitOn '.', d.nameQuotes.1 ∈ piece := by
  have hsplit := splitOn_nameChars (d := d)
    (NamePart.map_chars_identifier (name.toList.splitOn '.'))
  rw [← String.toList_inj, toList_quoteTable h]
  constructor
  · intro heq piece hpiece
    rw [heq, List.map_map] at hsplit
    rw [hsplit] at hpiece
    obtain ⟨cs, -, rfl⟩ := List.mem_map.mp hpiece
    exact opening_mem_partChars cs
  · intro hall
    rw [nameChars, List.map_map]
    have hkept : (name.toList.splitOn '.').map (d.partChars ∘ NamePart.identifier) =
        name.toList.splitOn '.' := by
      conv_rhs => rw [← List.map_id (name.toList.splitOn '.')]
      exact List.map_congr_left fun piece hpiece => if_pos (hall piece hpiece)
    rw [hkept, List.intercalate_splitOn]

/-- Where no star is at the end, columns are quoted like tables. -/
lemma quoteColumn_eq_quoteTable (h : (name.toList.splitOn '.').getLast? ≠ some ['*']) :
    d.quoteColumn name = d.quoteTable name := by
  cases hverbatim : isVerbatimName name with
  | true => rw [quoteColumn_of_isVerbatimName hverbatim, quoteTable_of_isVerbatimName hverbatim]
  | false =>
    apply String.toList_injective
    rw [toList_quoteColumn hverbatim, toList_quoteTable hverbatim, NamePart.ofColumn, if_neg h]

/-- A name that ends with a quote does not end with a star. -/
lemma getLast?_splitOn_enclosed {segments : List (List Char)} (hne : segments ≠ []) :
    ((['.'].intercalate (segments.map d.enclosed)).splitOn '.').getLast? ≠ some ['*'] := by
  obtain ⟨before, last, rfl⟩ := (List.eq_nil_or_concat' segments).resolve_left hne
  rw [List.map_append, List.map_singleton]
  have hquote := Chars.suffix_intercalate_concat '.' (before.map d.enclosed)
    (d.enclosed last)
  generalize ['.'].intercalate (before.map d.enclosed ++ [d.enclosed last]) = cs at hquote ⊢
  intro hlast
  obtain ⟨pieces, hpieces⟩ := List.getLast?_eq_some_iff.mp hlast
  have hstar := Chars.suffix_intercalate_concat '.' pieces ['*']
  rw [← hpieces, List.intercalate_splitOn] at hstar
  have hclosing : [d.nameQuotes.2] <:+ cs :=
    (List.suffix_append (d.nameQuotes.1 :: last) [d.nameQuotes.2]).trans hquote
  have hsame := (List.suffix_of_suffix_length_le hclosing hstar (by simp)).eq_of_length rfl
  exact absurd hsame (by cases d <;> decide)

/-- A name that is made by putting segments between quotes, and dots between them, is kept exactly
if it is verbatim, or no segment has a dot in it; where the opening quote is the closing one, a
segment may have one dot. -/
theorem quotedName_kept_iff (d : Dialect) {segments : List (List Char)} (hne : segments ≠ [])
    (hopen : ∀ s ∈ segments, d.nameQuotes.1 ∉ s) :
    let name := String.ofList (['.'].intercalate (segments.map d.enclosed))
    let isKept := isVerbatimName name = true ∨
      ∀ s ∈ segments, s.count '.' ≤ if d.nameQuotes.1 = d.nameQuotes.2 then 1 else 0
    (d.quoteTable name = name ↔ isKept) ∧ (d.quoteColumn name = name ↔ isKept) := by
  intro name isKept
  have hname : name.toList = ['.'].intercalate (segments.map d.enclosed) := String.toList_ofList
  have htable : d.quoteTable name = name ↔ isKept := by
    cases hverbatim : isVerbatimName name with
    | true => exact iff_of_true (quoteTable_of_isVerbatimName hverbatim) (.inl hverbatim)
    | false =>
      have hkept : isKept ↔
          ∀ s ∈ segments, s.count '.' ≤ if d.nameQuotes.1 = d.nameQuotes.2 then 1 else 0 :=
        or_iff_right (by simp [hverbatim])
      have hpieces : name.toList.splitOn '.' =
          (segments.map d.enclosed).flatMap (List.splitOn '.') := by
        rw [hname, Chars.splitOn_intercalate (by simpa using hne)]
      rw [quoteTable_eq_self_iff hverbatim, hkept, hpieces, List.forall_mem_flatMap,
        List.forall_mem_map]
      exact forall₂_congr fun s hs => opening_mem_splitOn_enclosed_iff (hopen s hs)
  refine ⟨htable, ?_⟩
  rw [quoteColumn_eq_quoteTable (hname ▸ getLast?_splitOn_enclosed hne), htable]

/-- In brackets the dot of a quoted segment is taken for one between two segments. -/
theorem quotedName_kept_iff_bracketedDot :
    let name := String.ofList (['.'].intercalate ([['a', '.', 'b']].map mssql.enclosed))
    [['a', '.', 'b']] ≠ [] ∧ (∀ s ∈ [['a', '.', 'b']], mssql.nameQuotes.1 ∉ s) ∧
      name = "[a.b]" ∧ mssql.quoteTable name ≠ name ∧ mssql.quoteColumn name ≠ name ∧
      mssql.quoteTable name = "[a.[b]]" ∧ mssql.quoteColumn name = "[a.[b]]" := by
  intro name
  have hopen : ∀ s ∈ [['a', '.', 'b']], mssql.nameQuotes.1 ∉ s := by decide
  have hiff := quotedName_kept_iff mssql (List.cons_ne_nil ['a', '.', 'b'] []) hopen
  have hcut : ¬(isVerbatimName name = true ∨ ∀ s ∈ [['a', '.', 'b']], s.count '.' ≤
      if mssql.nameQuotes.1 = mssql.nameQuotes.2 then 1 else 0) := by decide +kernel
  exact ⟨by decide, hopen, by decide +kernel, mt hiff.1.mp hcut, mt hiff.2.mp hcut,
    by decide +kernel, by decide +kernel⟩

end Dialect

end SqlCompose
