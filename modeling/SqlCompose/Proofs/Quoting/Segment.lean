import Mathlib
import SqlCompose.Proofs.PseudoSyntax.Sent
import SqlCompose.Proofs.Text.Split

/-!
# The segments of a name

A name that is not verbatim is cut at its dots, and what is written for it are its segments, each on
its own, with the dots between them again. The name of a column differs from that of a table only in
a star as its last segment. Quoting neither joins nor cuts segments, and it opens no reference.
-/

namespace SqlCompose

/-! ### Verbatim names -/

section Verbatim

variable {d : Dialect} {name : String} {cs : List Char}

lemma isPlainText_iff {s : String} :
    IsPlainText s ↔ ∀ c ∈ openingBrackets, ¬[c, c] <:+: s.toList := by
  refine ⟨fun hs c hc => hs.no_opening hc, fun h => ⟨?_, ?_⟩⟩
  · exact Bool.eq_false_iff.mpr fun hc => h '[' (by decide) (Chars.contains_eq_true_iff.mp hc)
  · exact Bool.eq_false_iff.mpr fun hc => h '\x7b' (by decide) (Chars.contains_eq_true_iff.mp hc)

/-- A name is quoted exactly if it has neither a parenthesis nor pseudo-syntax. -/
lemma Dialect.isVerbatimName_eq_false_iff :
    Dialect.isVerbatimName name = false ↔ '(' ∉ name.toList ∧ IsPlainText name := by
  rw [Dialect.isVerbatimName, Bool.or_eq_false_iff, Bool.or_eq_false_iff, and_assoc,
    ← Bool.not_eq_true, List.contains_iff_mem, IsPlainText]

lemma Dialect.isVerbatimName_of_infix (h : Dialect.isVerbatimName name = false)
    (hcs : cs <:+: name.toList) : Dialect.isVerbatimName (.ofList cs) = false := by
  rw [isVerbatimName_eq_false_iff, isPlainText_iff] at h ⊢
  rw [String.toList_ofList]
  exact ⟨fun hc => h.1 (hcs.subset hc), fun c hc hpair => h.2 c hc (hpair.trans hcs)⟩

/-- Marks of which no two next to each other open a reference are those of a plain text. -/
lemma isPlainText_of_isChain {s : String} (h : (charMarks s.toList).IsChain AreUnpaired) :
    IsPlainText s := by
  refine isPlainText_iff.mpr fun c hc hpair => ?_
  have hmarks : [some c, some c] <:+: charMarks s.toList := hpair.map some
  have hchain := List.IsChain.infix h hmarks
  exact List.isChain_pair.mp hchain c hc rfl rfl

/-- Quoting the name of a table opens no reference. -/
lemma IsPlainText.quoteTable (h : IsPlainText name) : IsPlainText (d.quoteTable name) := by
  have hwoven : Woven d [name] (charMarks (d.quoteTable name).toList) :=
    woven_quoteTable List.mem_cons_self List.infix_rfl
  exact isPlainText_of_isChain (hwoven.isChain_areUnpaired (by simpa using h))

/-- Quoting the name of a column opens no reference. -/
lemma IsPlainText.quoteColumn (h : IsPlainText name) : IsPlainText (d.quoteColumn name) := by
  have hwoven : Woven d [name] (charMarks (d.quoteColumn name).toList) :=
    woven_quoteColumn List.mem_cons_self
  exact isPlainText_of_isChain (hwoven.isChain_areUnpaired (by simpa using h))

end Verbatim

/-! ### What is written for a segment -/

/-- A part of a name: an identifier, or the star that stands for all columns. -/
inductive NamePart
  | identifier (cs : List Char)
  | star
  deriving DecidableEq

namespace NamePart

/-- The segment that a part is. -/
def chars : NamePart → List Char
  | identifier cs => cs
  | star => ['*']

/-- The parts of a column's name with the given segments. -/
def ofColumn (segments : List (List Char)) : List NamePart :=
  if segments.getLast? = some ['*'] then segments.dropLast.map .identifier ++ [.star]
  else segments.map .identifier

lemma ofColumn_concat (segments : List (List Char)) (last : List Char) :
    ofColumn (segments ++ [last]) =
      segments.map .identifier ++ [if last = ['*'] then .star else .identifier last] := by
  rw [ofColumn, List.getLast?_concat, List.dropLast_concat]
  by_cases h : last = ['*'] <;> simp [h]

lemma map_chars_identifier (segments : List (List Char)) :
    (segments.map identifier).map chars = segments := by
  rw [List.map_map]
  exact List.map_id segments

lemma map_chars_ofColumn (segments : List (List Char)) :
    (ofColumn segments).map chars = segments := by
  rcases List.eq_nil_or_concat' segments with rfl | ⟨before, last, rfl⟩
  · rfl
  · rw [ofColumn_concat, List.map_append, map_chars_identifier]
    by_cases h : last = ['*'] <;> simp [h, chars]

lemma star_not_mem_dropLast_identifier (segments : List (List Char)) :
    star ∉ (segments.map identifier).dropLast := by
  intro h
  simpa using List.mem_of_mem_dropLast h

/-- A star is the name of a column at the end only. -/
lemma star_not_mem_dropLast_ofColumn (segments : List (List Char)) :
    star ∉ (ofColumn segments).dropLast := by
  rcases List.eq_nil_or_concat' segments with rfl | ⟨before, last, rfl⟩
  · simp [ofColumn]
  · rw [ofColumn_concat, List.dropLast_concat]
    simp

section Segments

variable {parts : List NamePart} {s : List Char}

lemma ne_nil_of_segments (h : parts.map chars = s.splitOn '.') : parts ≠ [] := by
  rintro rfl
  exact List.splitOn_ne_nil '.' s h.symm

lemma dot_not_mem_of_segments (h : parts.map chars = s.splitOn '.') :
    ∀ p ∈ parts, '.' ∉ p.chars :=
  fun _ hp => Chars.not_mem_of_mem_splitOn (h ▸ List.mem_map_of_mem hp)

/-- The segments of a name have all characters of the name but the dots. -/
lemma forall_not_mem_iff_of_segments (h : parts.map chars = s.splitOn '.') {c : Char}
    (hc : c ≠ '.') : (∀ p ∈ parts, c ∉ p.chars) ↔ c ∉ s := by
  rw [← Chars.exists_mem_splitOn_iff hc, ← h]
  simp

end Segments

end NamePart

namespace Dialect

/-- Characters between the quotes of a name. -/
def enclosed (d : Dialect) (cs : List Char) : List Char :=
  d.nameQuotes.1 :: (cs ++ [d.nameQuotes.2])

lemma enclosed_inj {d : Dialect} {cs cs' : List Char} :
    d.enclosed cs = d.enclosed cs' ↔ cs = cs' := by
  simp [enclosed]

lemma endsVisibly_enclosed (d : Dialect) (cs : List Char) : EndsVisibly (d.enclosed cs) := by
  have hclosing : isBlank d.nameQuotes.2 = false := by cases d <;> decide
  refine ⟨d.nameQuotes.2, ?_, hclosing⟩
  rw [enclosed, ← List.cons_append, List.getLast?_concat]

/-- What is written for a part of a name: an identifier is left as it is if it has an opening
quote. -/
def partChars (d : Dialect) : NamePart → List Char
  | .identifier cs => if d.nameQuotes.1 ∈ cs then cs else d.enclosed cs
  | .star => ['*']

def nameChars (d : Dialect) (parts : List NamePart) : List Char :=
  ['.'].intercalate (parts.map d.partChars)

variable {d : Dialect} {name : String} {cs : List Char}

lemma toList_quoteSegment (name : String) :
    (d.quoteSegment name).toList = d.partChars (.identifier name.toList) := by
  simp only [quoteSegment, partChars, List.contains_iff_mem]
  split
  · rfl
  · rw [String.toList_ofList]
    rfl

/-- The last segment of a column is quoted unless it is a star. -/
lemma toList_quoteColumnSegment (name : String) :
    (d.quoteColumnSegment name).toList =
      d.partChars (if name.toList = ['*'] then .star else .identifier name.toList) := by
  have hstar : name = "*" ↔ name.toList = ['*'] := by
    rw [← String.toList_inj]
    rfl
  rw [quoteColumnSegment]
  by_cases h : name = "*"
  · rw [if_pos h, if_pos (hstar.mp h), h]
    rfl
  · rw [if_neg h, if_neg (mt hstar.mpr h), toList_quoteSegment]

/-- The table of a name that is not verbatim is written segment by segment. -/
lemma toList_quoteTable (h : isVerbatimName name = false) :
    (d.quoteTable name).toList =
      d.nameChars ((name.toList.splitOn '.').map .identifier) := by
  rw [quoteTable, h, if_neg (by decide), Text.join, String.toList_intercalate, nameChars]
  congr 1
  rw [Text.split, Chars.split_eq_splitOn, List.map_map, List.map_map, List.map_map]
  refine List.map_congr_left fun segment _ => ?_
  simp [toList_quoteSegment]

lemma nameChars_concat {parts : List NamePart} (hne : parts ≠ []) (p : NamePart) :
    d.nameChars (parts ++ [p]) = d.nameChars parts ++ '.' :: d.partChars p := by
  rw [nameChars, List.map_append]
  exact Chars.intercalate_concat (by simpa using hne) (d.partChars p)

/-- The name of a column that is not verbatim is written like that of a table, but for a star. -/
lemma toList_quoteColumn (h : isVerbatimName name = false) :
    (d.quoteColumn name).toList = d.nameChars (NamePart.ofColumn (name.toList.splitOn '.')) := by
  rw [quoteColumn, h, if_neg (by decide)]
  by_cases hdot : '.' ∈ name.toList
  · obtain ⟨table, column, hname, hcolumn⟩ := Chars.exists_last_of_mem hdot
    have hlast : Text.splitLast "." name = some (.ofList table, .ofList column) := by
      have hsplit : Chars.splitLast ['.'] (table ++ ['.'] ++ column) = some (table, column) :=
        Chars.splitLast_append ((List.singleton_infix_iff _ _).not.mpr hcolumn) table
      rw [List.append_assoc] at hsplit
      rw [Text.splitLast, hname]
      exact congrArg _ hsplit
    have htable : isVerbatimName (.ofList table) = false :=
      isVerbatimName_of_infix h (hname ▸ (List.prefix_append table _).isInfix)
    have hsegments : name.toList.splitOn '.' = table.splitOn '.' ++ [column] := by
      rw [hname, List.splitOn_append_cons_self, List.splitOn_eq_singleton hcolumn]
    simp only [hlast]
    rw [hsegments, NamePart.ofColumn_concat,
      nameChars_concat (by simp [List.splitOn_ne_nil])]
    simp [toList_quoteTable htable, toList_quoteColumnSegment]
  · have hlast : Text.splitLast "." name = none := by
      rw [Text.splitLast, Option.map_eq_none_iff, Chars.splitLast_eq_none_iff]
      exact (List.singleton_infix_iff _ _).not.mpr hdot
    have hparts := NamePart.ofColumn_concat [] name.toList
    rw [List.nil_append] at hparts
    simp only [hlast]
    rw [List.splitOn_eq_singleton hdot, hparts, toList_quoteColumnSegment]
    simp [nameChars]

/-! ### The pieces of what is written -/

lemma nameQuotes_ne_dot (d : Dialect) : d.nameQuotes.1 ≠ '.' ∧ d.nameQuotes.2 ≠ '.' := by
  cases d <;> decide

/-- A character of what is written for a part is one of the part itself, or a quote. -/
lemma mem_partChars {c : Char} {p : NamePart} (h : c ∈ d.partChars p) :
    c = d.nameQuotes.1 ∨ c = d.nameQuotes.2 ∨ c ∈ p.chars := by
  cases p with
  | star => exact .inr (.inr h)
  | identifier cs =>
    rw [partChars] at h
    split at h
    · exact .inr (.inr h)
    · rw [enclosed, List.mem_cons, List.mem_append, List.mem_singleton] at h
      tauto

lemma dot_not_mem_enclosed (h : '.' ∉ cs) : '.' ∉ d.enclosed cs := by
  simp [enclosed, h, d.nameQuotes_ne_dot.1.symm, d.nameQuotes_ne_dot.2.symm]

lemma dot_not_mem_partChars {p : NamePart} (h : '.' ∉ p.chars) : '.' ∉ d.partChars p := by
  intro hmem
  rcases mem_partChars hmem with hdot | hdot | hdot
  · exact d.nameQuotes_ne_dot.1 hdot.symm
  · exact d.nameQuotes_ne_dot.2 hdot.symm
  · exact h hdot

/-- What is written for a name is cut where the name is. -/
lemma splitOn_nameChars {parts : List NamePart} {s : List Char}
    (h : parts.map NamePart.chars = s.splitOn '.') :
    (d.nameChars parts).splitOn '.' = parts.map d.partChars := by
  refine List.splitOn_intercalate '.' ?_ (by simpa using NamePart.ne_nil_of_segments h)
  refine List.forall_mem_map.mpr fun p hp => ?_
  exact dot_not_mem_partChars (NamePart.dot_not_mem_of_segments h p hp)

end Dialect

end SqlCompose
