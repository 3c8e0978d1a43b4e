import Mathlib
import SqlCompose.Proofs.Quoting.Literal
import SqlCompose.Proofs.Quoting.Segment

/-!
# Reading a quoted name

An identifier as an engine reads it runs from the opening quote of the dialect to the closing one,
and a closing quote that is written twice stands for one. A name is read as identifiers with dots
between them, of which the last may be a star, and each name is written in one way only. The quoting
of names puts the segments between quotes and does not look at the closing quote: a name without an
opening quote is read back as its segments exactly if it has no closing quote either.
-/

namespace SqlCompose

/-! ### Identifiers -/

/-- Where nothing is escaped, what is read is written with its closing quotes twice. -/
lemma unquote?_eq_some_iff {closing : Char} {s cs rest : List Char} :
    unquote? closing (fun _ _ => none) s = some (cs, rest) ↔
      s = Chars.doubled closing cs ++ closing :: rest ∧ rest.head? ≠ some closing := by
  constructor
  · intro h
    fun_induction unquote? closing (fun _ _ => none) s generalizing cs with
    | case1 | case3 => simp at h
    | case2 =>
      obtain ⟨rfl, rfl⟩ := Prod.mk.inj (Option.some.inj h)
      simp
    | case4 more ih =>
      obtain ⟨⟨cs', rest'⟩, hread, heq⟩ := Option.map_eq_some_iff.mp h
      obtain ⟨rfl, rfl⟩ := Prod.mk.inj heq
      obtain ⟨rfl, hrest⟩ := ih hread
      exact ⟨by rw [Chars.doubled_quote_cons]; rfl, hrest⟩
    | case5 c' more hc' =>
      obtain ⟨rfl, rfl⟩ := Prod.mk.inj (Option.some.inj h)
      exact ⟨rfl, fun hhead => hc' (Option.some.inj hhead)⟩
    | case6 => contradiction
    | case7 c c' more hc _ ih =>
      obtain ⟨⟨cs', rest'⟩, hread, heq⟩ := Option.map_eq_some_iff.mp h
      obtain ⟨rfl, rfl⟩ := Prod.mk.inj heq
      obtain ⟨hmore, hrest⟩ := ih hread
      exact ⟨by rw [Chars.doubled_cons hc, hmore]; rfl, hrest⟩
  · rintro ⟨rfl, hrest⟩
    rw [Chars.doubled, Chars.replaceChar, unquote?_flatMap, unquote?_closing hrest]
    · simp
    · intro c rest
      split
      · rename_i hc
        subst hc
        exact unquote?_closing_twice rest
      · rename_i hc
        exact unquote?_cons hc (fun _ => rfl) rest

namespace Dialect

variable {d : Dialect} {name : String} {s cs rest : List Char}

/-- The identifier that a text starts with, and what comes after it. -/
def readIdentifier? (d : Dialect) : List Char → Option (List Char × List Char)
  | [] => none
  | c :: rest =>
    if c = d.nameQuotes.1 then unquote? d.nameQuotes.2 (fun _ _ => none) rest else none

/-- How a part of a name is written for it to be read. -/
def writtenChars (d : Dialect) : NamePart → List Char
  | .identifier cs => d.enclosed (Chars.doubled d.nameQuotes.2 cs)
  | .star => ['*']

/-- An identifier is read exactly where it is written, up to its closing quote. -/
lemma readIdentifier?_eq_some_iff : d.readIdentifier? s = some (cs, rest) ↔
    s = d.writtenChars (.identifier cs) ++ rest ∧ rest.head? ≠ some d.nameQuotes.2 := by
  cases s with
  | nil => simp [readIdentifier?, writtenChars, enclosed]
  | cons c s =>
    rw [readIdentifier?]
    split
    · rename_i hc
      subst hc
      rw [unquote?_eq_some_iff]
      simp [writtenChars, enclosed]
    · rename_i hc
      simp [writtenChars, enclosed, hc]

/-- The parts of the name that a text is: identifiers with dots between them, of which the last may
be a star. -/
def readName? (d : Dialect) (s : List Char) : Option (List NamePart) :=
  if s = ['*'] then some [.star]
  else match _hs : d.readIdentifier? s with
    | some (cs, []) => some [.identifier cs]
    | some (cs, '.' :: rest) => (d.readName? rest).map (.identifier cs :: ·)
    | _ => none
termination_by s.length
decreasing_by
  rw [(readIdentifier?_eq_some_iff.mp _hs).1, List.length_append, List.length_cons]
  omega

/-- A star is not quoted. -/
lemma ne_star_of_readIdentifier? (h : d.readIdentifier? s = some (cs, rest)) : s ≠ ['*'] := by
  rintro rfl
  have hquote : '*' ≠ d.nameQuotes.1 := by cases d <;> decide
  rw [readIdentifier?, if_neg hquote] at h
  cases h

lemma readName?_identifier (h : d.readIdentifier? s = some (cs, [])) :
    d.readName? s = some [.identifier cs] := by
  rw [readName?, if_neg (ne_star_of_readIdentifier? h)]
  split <;> simp_all

/-- After an identifier and a dot, the rest of the name is read. -/
lemma readName?_dot (h : d.readIdentifier? s = some (cs, '.' :: rest)) :
    d.readName? s = (d.readName? rest).map (.identifier cs :: ·) := by
  rw [readName?, if_neg (ne_star_of_readIdentifier? h)]
  split <;> simp_all

/-- A text is read as a name exactly if it is the text that is written for the name. -/
lemma readName?_eq_some_iff {parts : List NamePart} :
    d.readName? s = some parts ↔ s = ['.'].intercalate (parts.map d.writtenChars) ∧
      parts ≠ [] ∧ .star ∉ parts.dropLast := by
  constructor
  · intro h
    fun_induction readName? d s generalizing parts with
    | case1 =>
      obtain rfl := Option.some.inj h
      simp [writtenChars]
    | case2 s _ cs hs =>
      obtain rfl := Option.some.inj h
      obtain ⟨hchars, -⟩ := readIdentifier?_eq_some_iff.mp hs
      simpa using hchars
    | case3 s _ cs rest hs ih =>
      obtain ⟨parts', hread, rfl⟩ := Option.map_eq_some_iff.mp h
      obtain ⟨hchars, -⟩ := readIdentifier?_eq_some_iff.mp hs
      obtain ⟨hrest, hne, hstar⟩ := ih hread
      refine ⟨?_, List.cons_ne_nil _ _, ?_⟩
      · rw [List.map_cons, List.intercalate_cons_of_ne_nil (by simpa using hne), ← hrest, hchars]
        simp
      · rw [List.dropLast_cons_of_ne_nil hne]
        simpa using hstar
    | case4 => cases h
  · rintro ⟨rfl, hne, hstar⟩
    induction parts with
    | nil => exact absurd rfl hne
    | cons p parts ih =>
      cases parts with
      | nil =>
        rw [List.map_singleton, List.intercalate_singleton]
        cases p with
        | star => rw [writtenChars, readName?, if_pos rfl]
        | identifier cs =>
          exact readName?_identifier (readIdentifier?_eq_some_iff.mpr (by simp))
      | cons q parts =>
        rw [List.dropLast_cons_cons, List.mem_cons, not_or] at hstar
        cases p with
        | star => exact absurd rfl hstar.1
        | identifier cs =>
          have hdot : ('.' : Char) ≠ d.nameQuotes.2 := d.nameQuotes_ne_dot.2.symm
          have hread : d.readIdentifier?
              (['.'].intercalate ((.identifier cs :: q :: parts).map d.writtenChars)) =
                some (cs, '.' :: ['.'].intercalate ((q :: parts).map d.writtenChars)) := by
            rw [readIdentifier?_eq_some_iff]
            simpa using hdot
          rw [readName?_dot hread, ih (List.cons_ne_nil _ _) hstar.2]
          rfl

/-! ### Quoted names -/

/-- Quoting adds no dot. -/
lemma dot_not_mem_writtenChars {p : NamePart} (h : '.' ∉ p.chars) : '.' ∉ d.writtenChars p := by
  cases p with
  | star => exact h
  | identifier cs =>
    rw [writtenChars]
    exact dot_not_mem_enclosed (Chars.mem_doubled_iff.not.mpr h)

/-- The segments of a name without an opening quote are written to be read, as long as it has no
closing quote. -/
lemma readName?_nameChars_iff {parts : List NamePart}
    (h : parts.map NamePart.chars = s.splitOn '.') (hstar : .star ∉ parts.dropLast)
    (hopen : d.nameQuotes.1 ∉ s) :
    d.readName? (d.nameChars parts) = some parts ↔ d.nameQuotes.2 ∉ s := by
  have hne := NamePart.ne_nil_of_segments h
  have hdot := NamePart.dot_not_mem_of_segments h
  have hwritten : ∀ l ∈ parts.map d.writtenChars, '.' ∉ l :=
    List.forall_mem_map.mpr fun p hp => dot_not_mem_writtenChars (hdot p hp)
  have hquoted : ∀ l ∈ parts.map d.partChars, '.' ∉ l :=
    List.forall_mem_map.mpr fun p hp => dot_not_mem_partChars (hdot p hp)
  rw [← NamePart.forall_not_mem_iff_of_segments h d.nameQuotes_ne_dot.1] at hopen
  rw [← NamePart.forall_not_mem_iff_of_segments h d.nameQuotes_ne_dot.2, readName?_eq_some_iff,
    and_iff_left ⟨hne, hstar⟩, nameChars,
    Chars.intercalate_inj hquoted (by simpa using hne) hwritten (by simpa using hne),
    List.map_inj_left]
  refine forall₂_congr fun p hp => ?_
  cases p with
  | star => exact iff_of_true rfl (by cases d <;> decide)
  | identifier cs =>
    have hcs : d.nameQuotes.1 ∉ cs := hopen _ hp
    rw [partChars, if_neg hcs, writtenChars, enclosed_inj, eq_comm, Chars.doubled_eq_self_iff]
    rfl

/-- A name that is not verbatim and has no opening quote is read back from what is written for it,
segment by segment, exactly if it has no closing quote. -/
theorem quotedName_read_iff (hparen : '(' ∉ name.toList) (hplain : IsPlainText name)
    (hopen : d.nameQuotes.1 ∉ name.toList) :
    let segments := name.toList.splitOn '.'
    (d.readName? (d.quoteTable name).toList = some (segments.map .identifier) ↔
      d.nameQuotes.2 ∉ name.toList) ∧
    (d.readName? (d.quoteColumn name).toList = some (NamePart.ofColumn segments) ↔
      d.nameQuotes.2 ∉ name.toList) := by
  intro segments
  have hverbatim := isVerbatimName_eq_false_iff.mpr ⟨hparen, hplain⟩
  rw [toList_quoteTable hverbatim, toList_quoteColumn hverbatim]
  constructor
  · exact readName?_nameChars_iff (NamePart.map_chars_identifier segments)
      (NamePart.star_not_mem_dropLast_identifier segments) hopen
  · exact readName?_nameChars_iff (NamePart.map_chars_ofColumn segments)
      (NamePart.star_not_mem_dropLast_ofColumn segments) hopen

/-- A closing bracket in a name ends the identifier. -/
theorem quotedName_read_iff_closingBracket :
    '(' ∉ "a]b".toList ∧ IsPlainText "a]b" ∧ mssql.nameQuotes.1 ∉ "a]b".toList ∧
      mssql.quoteTable "a]b" = "[a]b]" ∧ mssql.quoteColumn "a]b" = "[a]b]" ∧
      mssql.readName? "[a]b]".toList ≠ some [.identifier ['a', ']', 'b']] ∧
      mssql.readName? "[a]]b]".toList = some [.identifier ['a', ']', 'b']] := by
  have hiff := @quotedName_read_iff mssql "a]b" (by decide) (by decide) (by decide)
  have htable : mssql.quoteTable "a]b" = "[a]b]" := by decide +kernel
  have hread : mssql.readName? "[a]]b]".toList = some [.identifier ['a', ']', 'b']] :=
    readName?_eq_some_iff.mpr (by decide)
  refine ⟨by decide, by decide, by decide, htable, by decide +kernel, ?_, hread⟩
  rw [← htable]
  exact mt hiff.1.mp (by decide)

end Dialect

end SqlCompose
