import Mathlib
import SqlCompose.Proofs.PseudoSyntax.Reference

/-!
# References as they are written

A reference is written as its name between two brackets of a kind. Where one is written it is read,
whatever comes after it: its name ends at the first closing bracket, and what it is resolved to is
not looked at again. So a text that is put together from references and from text without opening
brackets is resolved part by part.
-/

namespace SqlCompose

namespace Reference

variable {d : Dialect} {tablePrefix : String} {cs before rest : List Char} {r : Reference}

/-! ### Names of references -/

/-- One or more characters of names. -/
structure IsName (cs : List Char) : Prop where
  ne_nil : cs ≠ []
  all : ∀ c ∈ cs, isNameChar c = true

/-- A name with or without a percent sign at either end. -/
def IsTableName (cs : List Char) : Prop :=
  ∃ before name after, cs = before ++ name ++ after ∧ IsName name ∧
    before ∈ [[], ['%']] ∧ after ∈ [[], ['%']]

/-- The names that a reference can be written with. -/
def IsWritable : Reference → Prop
  | .table name => IsTableName name
  | .column name => IsName name

/-- A reference between its brackets. -/
def chars : Reference → List Char
  | .table name => '\x7b' :: '\x7b' :: (name ++ ['\x7d', '\x7d'])
  | .column name => '[' :: '[' :: (name ++ [']', ']'])

lemma length_chars (r : Reference) : r.chars.length = r.length := by
  cases r <;> simp [chars, length]

/-! ### Reading what is written -/

/-- A percent sign before a name is read as such, and nothing else is. -/
lemma percent_of_mem (hbefore : before ∈ [[], ['%']]) (hrest : rest.head? ≠ some '%') :
    percent (before ++ rest) = (before, rest) := by
  rcases List.mem_pair.mp hbefore with rfl | rfl
  · cases rest with
    | nil => rfl
    | cons c rest =>
      have hc : c ≠ '%' := by
        rintro rfl
        exact hrest rfl
      simp [percent, hc]
  · rfl

lemma span_append_of_forall (h : ∀ c ∈ cs, isNameChar c = true)
    (hrest : ∀ c ∈ rest.head?, isNameChar c = false) :
    (cs ++ rest).span isNameChar = (cs, rest) := by
  rw [List.span_eq_takeWhile_dropWhile, List.takeWhile_append_of_pos h,
    List.dropWhile_append_of_pos h]
  cases rest with
  | nil => simp
  | cons c rest =>
    have hc : isNameChar c = false := hrest c rfl
    simp [hc]

/-- No name starts with a percent sign. -/
lemma IsName.head?_append (h : IsName cs) (rest : List Char) :
    (cs ++ rest).head? ≠ some '%' := by
  obtain ⟨c, cs, rfl⟩ := List.exists_cons_of_ne_nil h.ne_nil
  intro hhead
  obtain rfl := Option.some.inj hhead
  exact absurd (h.all _ List.mem_cons_self) (by decide)

/-- A reference is read where it is written. -/
lemma ofChars?_chars_append (h : r.IsWritable) (rest : List Char) :
    ofChars? (r.chars ++ rest) = some r := by
  cases r with
  | table name =>
    obtain ⟨before, core, after, rfl, hcore, hbefore, hafter⟩ := h
    have hstart := percent_of_mem hbefore (hcore.head?_append (after ++ '\x7d' :: '\x7d' :: rest))
    have hname : (core ++ (after ++ '\x7d' :: '\x7d' :: rest)).span isNameChar =
        (core, after ++ '\x7d' :: '\x7d' :: rest) := by
      apply span_append_of_forall hcore.all
      rcases List.mem_pair.mp hafter with rfl | rfl <;> simp <;> decide
    have hend : percent (after ++ '\x7d' :: '\x7d' :: rest) = (after, '\x7d' :: '\x7d' :: rest) :=
      percent_of_mem hafter (by simp)
    obtain ⟨c, cs, rfl⟩ := List.exists_cons_of_ne_nil hcore.ne_nil
    simp only [chars, List.cons_append, List.append_assoc, List.nil_append] at hstart hname ⊢
    simp only [ofChars?, hstart, hname, hend, List.append_assoc, List.cons_append]
  | column name =>
    have hname : (name ++ ']' :: ']' :: rest).span isNameChar = (name, ']' :: ']' :: rest) := by
      apply span_append_of_forall h.all
      simp
      decide
    obtain ⟨c, cs, rfl⟩ := List.exists_cons_of_ne_nil h.ne_nil
    simp only [chars, List.cons_append, List.append_assoc, List.nil_append] at hname ⊢
    simp only [ofChars?, hname]

/-- Characters that belong to a reference already resolved are passed over. -/
lemma resolveFrom_skip (cs rest : List Char) :
    resolveFrom d tablePrefix cs.length (cs ++ rest) = resolveFrom d tablePrefix 0 rest := by
  induction cs with
  | nil => rfl
  | cons c cs ih => exact ih

/-- What a reference is resolved to is not looked at again, and what comes after it is resolved on
its own. -/
lemma resolveFrom_chars_append (d : Dialect) (tablePrefix : String) (h : r.IsWritable)
    (rest : List Char) :
    resolveFrom d tablePrefix 0 (r.chars ++ rest) =
      (r.resolve d tablePrefix).toList ++ resolveFrom d tablePrefix 0 rest := by
  obtain ⟨c, cs, hchars⟩ : ∃ c cs, r.chars = c :: cs := by cases r <;> exact ⟨_, _, rfl⟩
  have hread := ofChars?_chars_append h rest
  have hlength : r.length - 1 = cs.length := by
    rw [← length_chars, hchars, List.length_cons, Nat.add_sub_cancel]
  rw [hchars, List.cons_append] at hread ⊢
  rw [resolveFrom, hread]
  dsimp only
  rw [hlength, resolveFrom_skip]

end Reference

/-! ### Texts with references -/

/-- A part of a text with pseudo-syntax. -/
inductive TextPart
  | plain (s : String)
  | table (name : String)
  | column (name : String)

namespace TextPart

variable {d : Dialect} {tablePrefix : String}

/-- A part as it is written. -/
def written : TextPart → String
  | .plain s => s
  | .table name => "\x7b\x7b" ++ name ++ "\x7d\x7d"
  | .column name => "[[" ++ name ++ "]]"

/-- What becomes of a part: the name of a table is quoted with the prefix for each percent sign. -/
def resolved (d : Dialect) (tablePrefix : String) : TextPart → String
  | .plain s => s
  | .table name => d.quoteTable (Text.replaceChar '%' tablePrefix name)
  | .column name => d.quoteColumn name

/-- Plain text has no opening bracket, and a name is one that a reference can be written with. -/
def IsValid : TextPart → Prop
  | .plain s => '\x7b' ∉ s.toList ∧ '[' ∉ s.toList
  | .table name => Reference.IsTableName name.toList
  | .column name => Reference.IsName name.toList

/-- A part of a text is resolved by itself, whatever comes after it. -/
lemma resolveFrom_written_append {p : TextPart} (h : p.IsValid) (rest : List Char) :
    Reference.resolveFrom d tablePrefix 0 (p.written.toList ++ rest) =
      (p.resolved d tablePrefix).toList ++ Reference.resolveFrom d tablePrefix 0 rest := by
  cases p with
  | plain s =>
    apply Reference.resolveFrom_bare_append
    intro c hc hbracket
    rcases List.mem_pair.mp hbracket with rfl | rfl
    · exact h.2 hc
    · exact h.1 hc
  | table name =>
    have hresolve := Reference.resolveFrom_chars_append d tablePrefix
      (r := .table name.toList) h rest
    simpa [Reference.chars, Reference.resolve, written, resolved] using hresolve
  | column name =>
    have hresolve := Reference.resolveFrom_chars_append d tablePrefix
      (r := .column name.toList) h rest
    simpa [Reference.chars, Reference.resolve, written, resolved] using hresolve

/-- A text is resolved part by part, in whatever order its parts stand. -/
theorem quoteSql_join (d : Dialect) (tablePrefix : String) {parts : List TextPart}
    (h : ∀ p ∈ parts, p.IsValid) :
    d.quoteSql tablePrefix (String.join (parts.map written)) =
      String.join (parts.map (resolved d tablePrefix)) := by
  apply String.toList_injective
  rw [Dialect.quoteSql, String.toList_ofList]
  induction parts with
  | nil => rfl
  | cons p parts ih =>
    rw [List.forall_mem_cons] at h
    simp only [List.map_cons, String.join_cons, String.toList_append]
    rw [resolveFrom_written_append h.1, ih h.2]

/-- References next to each other, closing brackets after them, and a prefix that looks like a
reference. -/
theorem quoteSql_join_adjacent :
    (∀ p ∈ [table "%a", column "t.b c", plain "]]\x7d ", table "d%", column "e"], p.IsValid) ∧
    Dialect.mysql.quoteSql "s.[[x]]" "\x7b\x7b%a\x7d\x7d[[t.b c]]]]\x7d \x7b\x7bd%\x7d\x7d[[e]]" =
      "s.[[x]]a\x60t\x60.\x60b c\x60]]\x7d ds.[[x]]\x60e\x60" := by
  have hname {cs : List Char} (hne : cs ≠ []) (hall : cs.all Reference.isNameChar = true) :
      Reference.IsName cs := ⟨hne, List.all_eq_true.mp hall⟩
  have hvalid : ∀ p ∈ [table "%a", column "t.b c", plain "]]\x7d ", table "d%", column "e"],
      p.IsValid := by
    simp only [List.forall_mem_cons, List.not_mem_nil, false_imp_iff, implies_true, and_true]
    refine ⟨?_, hname (by decide) (by decide), ⟨by decide, by decide⟩, ?_,
      hname (by decide) (by decide)⟩
    · exact ⟨['%'], ['a'], [], rfl, hname (by decide) (by decide), by decide, by decide⟩
    · exact ⟨[], ['d'], ['%'], rfl, hname (by decide) (by decide), by decide, by decide⟩
  exact ⟨hvalid, (quoteSql_join .mysql "s.[[x]]" hvalid).trans (by decide +kernel)⟩

end TextPart

end SqlCompose
