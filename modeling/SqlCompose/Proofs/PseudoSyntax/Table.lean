import Mathlib
import SqlCompose.Connection.Query
import SqlCompose.Proofs.Draft
import SqlCompose.Proofs.Fragment.Query
import SqlCompose.Proofs.ListText.Table
import SqlCompose.Proofs.PseudoSyntax.Written
import SqlCompose.Proofs.Quoting.Kept

/-!
# Tables named by references

A table that is named by a reference goes through the list of tables, the reading of its alias and
the quoting of its name before the reference is resolved. A name without spaces comes through all of
them as it is. A name with a space is taken for a table and an alias, and what is written for the
two has no reference any more.
-/

namespace SqlCompose

open Fragment

/-! ### Cuts of a text -/

namespace Chars

variable {a b s before after : List Char} {c : Char}

lemma exists_of_append_eq_left (ha : c ∉ a) (h : a ++ s = before ++ c :: after) :
    ∃ before', before = a ++ before' ∧ s = before' ++ c :: after := by
  induction a generalizing before with
  | nil => exact ⟨before, rfl, h⟩
  | cons x a ih =>
    rw [List.mem_cons, not_or] at ha
    cases before with
    | nil => exact absurd (List.cons.inj h).1.symm ha.1
    | cons y before =>
      obtain ⟨rfl, htail⟩ := List.cons.inj h
      obtain ⟨before', rfl, hs⟩ := ih ha.2 htail
      exact ⟨before', rfl, hs⟩

lemma exists_of_append_eq_right (hb : c ∉ b) (h : s ++ b = before ++ c :: after) :
    ∃ after', s = before ++ c :: after' ∧ after = after' ++ b := by
  induction s generalizing before with
  | nil =>
    have hmem : c ∈ b := by
      rw [← List.nil_append b, h]
      simp
    exact absurd hmem hb
  | cons x s ih =>
    cases before with
    | nil =>
      obtain ⟨rfl, htail⟩ := List.cons.inj h
      exact ⟨s, rfl, htail.symm⟩
    | cons y before =>
      obtain ⟨rfl, htail⟩ := List.cons.inj h
      obtain ⟨after', rfl, hafter⟩ := ih htail
      exact ⟨after', rfl, hafter⟩

end Chars

/-! ### Names of references -/

namespace Reference

variable {d : Dialect} {tablePrefix : String} {cs rest : List Char} {c x : Char}

lemma IsName.not_mem (h : IsName cs) (hx : isNameChar x = false) : x ∉ cs := by
  intro hmem
  rw [h.all x hmem] at hx
  cases hx

/-- The only blank in names is the space. -/
lemma eq_space_of_isBlank (hname : isNameChar c = true) (hblank : isBlank c = true) : c = ' ' := by
  have hword := isWordChar_eq_false_of_isBlank hblank
  simp only [isNameChar, hword, Bool.false_or, Bool.or_eq_true, beq_iff_eq] at hname
  rcases hname with (rfl | rfl) | hspace
  · exact absurd hblank (by decide)
  · exact absurd hblank (by decide)
  · exact hspace

/-- A reference of which the name does not end at a closing brace is none. -/
lemma ofChars?_unclosed (h : ∀ c ∈ cs, isNameChar c = true) (hx : isNameChar x = false)
    (hx' : x ∉ ['\x7b', '%', '\x7d']) :
    ofChars? ('\x7b' :: '\x7b' :: '%' :: (cs ++ x :: rest)) = none := by
  simp only [List.mem_cons, List.not_mem_nil, or_false, not_or] at hx'
  obtain ⟨-, hpercent, hclose⟩ := hx'
  have hname : (cs ++ x :: rest).span isNameChar = (cs, x :: rest) := by
    apply span_append_of_forall h
    simpa using hx
  have hstart : percent ('%' :: (cs ++ x :: rest)) = (['%'], cs ++ x :: rest) := rfl
  have hend : percent (x :: rest) = ([], x :: rest) := by simp [percent, hpercent]
  simp only [ofChars?, hstart, hname, hend]
  cases cs with
  | nil => rfl
  | cons c cs => simp [hclose]

end Reference

/-! ### Quoted names -/

namespace Dialect

variable {d : Dialect} {name : String}

/-- The opening quote is of another kind than the characters of references. -/
lemma opening_not_mem (d : Dialect) : Reference.isNameChar d.nameQuotes.1 = false ∧
    d.nameQuotes.1 ∉ ['\x7b', '%', '\x7d'] := by
  cases d <;> decide

/-- A name whose parts have no quotes is written between quotes. -/
lemma exists_nameChars_eq_enclosed {segments : List (List Char)} (hne : segments ≠ [])
    (hopen : ∀ s ∈ segments, d.nameQuotes.1 ∉ s) :
    ∃ cs, d.nameChars (segments.map .identifier) = d.enclosed cs := by
  induction segments with
  | nil => exact absurd rfl hne
  | cons s segments ih =>
    rw [List.forall_mem_cons] at hopen
    have hs : d.partChars (.identifier s) = d.enclosed s := if_neg hopen.1
    cases segments with
    | nil => exact ⟨s, by simp [nameChars, hs]⟩
    | cons s' segments =>
      obtain ⟨cs, hcs⟩ := ih (by simp) hopen.2
      refine ⟨s ++ d.nameQuotes.2 :: '.' :: d.nameQuotes.1 :: cs, ?_⟩
      simp only [nameChars, List.map_cons] at hcs ⊢
      rw [List.intercalate_cons_cons, hs, hcs]
      simp [enclosed]

/-- A name without an opening quote is quoted from its first character to its last. -/
lemma exists_quoteTable_eq_enclosed (hverbatim : isVerbatimName name = false)
    (hopen : d.nameQuotes.1 ∉ name.toList) :
    ∃ cs, (d.quoteTable name).toList = d.enclosed cs := by
  rw [toList_quoteTable hverbatim]
  apply exists_nameChars_eq_enclosed (List.splitOn_ne_nil '.' _)
  intro s hs hmem
  exact hopen ((Chars.exists_mem_splitOn_iff d.nameQuotes_ne_dot.1).mp ⟨s, hs, hmem⟩)

end Dialect

/-! ### Queries from one table -/

lemma Binding.write_texts (b : Binding) (texts : List String) :
    b.write (texts.map .text) = (.ok (String.join texts), b) := by
  induction texts with
  | nil => rfl
  | cons s texts ih =>
    rw [List.map_cons, Binding.write, ih, String.join_cons]
    rfl

namespace Query

/-- The query for everything from one table. -/
def fromTable (t : TableRef) : Query := { Query.empty with tables := [t] }

lemma withUnions_fromTable (d : Dialect) (t : TableRef) :
    (fromTable t).withUnions d =
      (["SELECT", " *", " ", "FROM "].map .text ++ t.fragment d) ++ [.text ""] := by
  have hlimit : d.limitClause none none = "" := by cases d <;> rfl
  simp [withUnions, simple, clauses, fromTable, Query.empty, hlimit, Fragment.distinct,
    selectModifier, selectList, listClause, tableFragments, joinFragments, Fragment.join, clause,
    filterFragment, groupingFragments, Fragment.orderBy, joinNonBlank, joinFrom, after,
    Fragment.isBlank, Piece.isBlank]

/-- What is sent for the query for everything from one table of which only texts are written. -/
lemma exists_all_fromTable (c : Connection) {t : TableRef} {texts : List String} {last : String}
    (ht : t.fragment c.dialect = (texts ++ [last]).map .text) (hend : EndsVisibly last.toList) :
    ∃ request, (fromTable t).all c = .ok request ∧
      request.call.sql = c.quoteSql ("SELECT * FROM " ++ String.join (texts ++ [last])) := by
  have hfragment : (fromTable t).fragment c.dialect =
      .supply ∅ :: (["SELECT", " *", " ", "FROM "] ++ texts ++ [last]).map .text := by
    rw [fragment_eq, withUnions_fromTable, trimEnd_concat_empty, ht, List.map_append,
      List.map_singleton, ← List.append_assoc, trimEnd_concat_of_endsVisibly hend]
    simp [fromTable, Query.empty]
  have hsql : String.join (["SELECT", " *", " ", "FROM "] ++ texts ++ [last]) =
      "SELECT * FROM " ++ String.join (texts ++ [last]) := by
    apply String.toList_injective
    simp [String.join_cons]
  have hbuild : ∃ out, c.builder.build (.select (fromTable t)) = .ok out ∧
      out.sql = "SELECT * FROM " ++ String.join (texts ++ [last]) := by
    simp only [Builder.build, Statement.fragment, Connection.builder, hfragment, Built.ofFragment,
      Binding.write, Binding.write_texts, hsql]
    exact ⟨_, rfl, rfl⟩
  obtain ⟨out, hout, hsql⟩ := hbuild
  refine ⟨_, congrArg _ hout, ?_⟩
  rw [← hsql]
  rfl

end Query

/-! ### References with the prefix -/

namespace Reference

variable {d : Dialect} {tablePrefix : String} {cs table label rest : List Char} {c x : Char}

/-- The reference to a table of which the name starts with the prefix. -/
def afterPrefix (cs : List Char) : Reference := .table ('%' :: cs)

lemma text_afterPrefix (n : String) :
    "\x7b\x7b%" ++ n ++ "\x7d\x7d" = .ofList (afterPrefix n.toList).chars := by
  apply String.toList_injective
  simp [afterPrefix, chars]

lemma mem_chars_afterPrefix (h : x ∈ (afterPrefix cs).chars) :
    x ∈ ['\x7b', '%', '\x7d'] ∨ x ∈ cs := by
  simp only [afterPrefix, chars, List.mem_cons, List.mem_append, List.cons_append] at h ⊢
  tauto

lemma IsName.isWritable_afterPrefix (h : IsName cs) : (afterPrefix cs).IsWritable :=
  ⟨['%'], cs, [], by simp, h, by simp, by simp⟩

/-- A character of another kind than those of references. -/
lemma IsName.not_mem_chars (h : IsName cs) (hx : isNameChar x = false)
    (hx' : x ∉ ['\x7b', '%', '\x7d']) : x ∉ (afterPrefix cs).chars := by
  intro hmem
  exact (mem_chars_afterPrefix hmem).elim hx' (h.not_mem hx)

/-- A blank in a reference is a space in its name. -/
lemma IsName.eq_space_of_mem_chars (h : IsName cs) (hx : x ∈ (afterPrefix cs).chars)
    (hblank : isBlank x = true) : x = ' ' ∧ ' ' ∈ cs := by
  rcases mem_chars_afterPrefix hx with hx | hx
  · have hnone : ['\x7b', '%', '\x7d'].any isBlank = false := by decide
    rw [List.any_eq_false] at hnone
    exact absurd hblank (hnone x hx)
  · obtain rfl := eq_space_of_isBlank (h.all x hx) hblank
    exact ⟨rfl, hx⟩

lemma getLast?_chars_afterPrefix (cs : List Char) :
    (afterPrefix cs).chars.getLast? = some '\x7d' := by
  have hlast : (afterPrefix cs).chars =
      ('\x7b' :: '\x7b' :: '%' :: (cs ++ ['\x7d'])) ++ ['\x7d'] := by simp [afterPrefix, chars]
  rw [hlast, List.getLast?_concat]

/-- No reference starts or ends with a blank. -/
lemma trim_chars_afterPrefix (cs : List Char) :
    Chars.trim (afterPrefix cs).chars = (afterPrefix cs).chars := by
  have hbraces : isBlank '\x7b' = false ∧ isBlank '\x7d' = false := by decide
  apply Chars.trim_eq_self
  · simpa [afterPrefix, chars] using hbraces.1
  · simpa [getLast?_chars_afterPrefix] using hbraces.2

/-- A reference to a name with a space is taken for a table and an alias. -/
lemma IsName.exists_tableAlias? (h : IsName cs) (hspace : ' ' ∈ cs) :
    ∃ p, ListText.tableAlias? (afterPrefix cs).chars = some p := by
  obtain ⟨before, last, rfl, hlast⟩ := Chars.exists_last_of_mem hspace
  have hchars : (afterPrefix (before ++ ' ' :: last)).chars =
      ('\x7b' :: '\x7b' :: '%' :: before) ++ ' ' :: (last ++ ['\x7d', '\x7d']) := by
    simp [afterPrefix, chars]
  have hword : ' ' ∉ last ++ ['\x7d', '\x7d'] := by simp [hlast]
  have hline := h.not_mem_chars (x := '\n') (by decide) (by decide)
  rw [hchars, List.mem_append, not_or] at hline
  rw [hchars]
  apply ListText.exists_tableAlias? hline.1
  · simp
  · intro x hx
    rw [← Bool.not_eq_true]
    intro hblank
    have hmem : x ∈ (afterPrefix (before ++ ' ' :: last)).chars := by
      rw [hchars]
      exact List.mem_append_right _ (List.mem_cons_of_mem _ hx)
    obtain ⟨rfl, -⟩ := h.eq_space_of_mem_chars hmem hblank
    exact hword hx

/-- A cut at a blank of a reference is a cut in its name. -/
lemma exists_of_chars_eq_append (h : (afterPrefix cs).chars = table ++ c :: rest)
    (hblank : isBlank c = true) :
    ∃ before after, table = '\x7b' :: '\x7b' :: '%' :: before ∧ cs = before ++ c :: after ∧
      rest = after ++ ['\x7d', '\x7d'] := by
  have hopening : c ∉ ['\x7b', '\x7b', '%'] := by
    have hnone : ['\x7b', '\x7b', '%'].any isBlank = false := by decide
    exact fun hmem => List.any_eq_false.mp hnone c hmem hblank
  have hclosing : c ∉ ['\x7d', '\x7d'] := by
    have hnone : ['\x7d', '\x7d'].any isBlank = false := by decide
    exact fun hmem => List.any_eq_false.mp hnone c hmem hblank
  obtain ⟨before, htable, hname⟩ := Chars.exists_of_append_eq_left hopening h
  obtain ⟨after, hcs, hrest⟩ := Chars.exists_of_append_eq_right hclosing hname
  exact ⟨before, after, htable, hcs, hrest⟩

end Reference

namespace Dialect

variable {d : Dialect} {tablePrefix name : String} {rest : List Char}

/-! ### What is sent for a reference -/

/-- A text that starts as a reference is not quoted. -/
lemma isVerbatimName_of_braces (rest : List Char) :
    isVerbatimName (.ofList ('\x7b' :: '\x7b' :: rest)) = true := by
  simp [isVerbatimName, Text.contains, Chars.contains, Chars.splitFirst]

lemma isVerbatimName_of_not_mem (hparen : '(' ∉ name.toList)
    (hname : ∀ c ∈ openingBrackets, c ∉ name.toList) : isVerbatimName name = false := by
  rw [isVerbatimName_eq_false_iff, isPlainText_iff]
  exact ⟨hparen, fun c hc hpair => hname c hc (hpair.subset List.mem_cons_self)⟩

/-- A name without an opening quote starts with one when it is quoted. -/
lemma head?_quoteTable (hverbatim : isVerbatimName name = false)
    (hopen : d.nameQuotes.1 ∉ name.toList) :
    (d.quoteTable name).toList.head? = some d.nameQuotes.1 := by
  obtain ⟨cs, hcs⟩ := exists_quoteTable_eq_enclosed hverbatim hopen
  rw [hcs]
  rfl

lemma quoteSql_select (s : String) :
    d.quoteSql tablePrefix ("SELECT * FROM " ++ s) =
      "SELECT * FROM " ++ d.quoteSql tablePrefix s := by
  have hbare : ∀ c ∈ "SELECT * FROM ".toList, c ∉ openingBrackets := by simp [openingBrackets]
  apply String.toList_injective
  simp only [quoteSql, String.toList_append, String.toList_ofList]
  exact Reference.resolveFrom_bare_append hbare s.toList

/-- The percent sign stands for the prefix. -/
lemma resolve_afterPrefix {n : String} (hn : Reference.IsName n.toList) :
    (Reference.afterPrefix n.toList).resolve d tablePrefix = d.quoteTable (tablePrefix ++ n) := by
  have hpercent : Chars.replaceChar '%' tablePrefix.toList n.toList = n.toList := by
    have hkept : ∀ c ∈ n.toList, (if c = '%' then tablePrefix.toList else [c]) = [c] := by
      intro c hc
      refine if_neg ?_
      rintro rfl
      exact hn.not_mem (by decide) hc
    rw [Chars.replaceChar, List.flatMap_congr hkept, List.flatMap_singleton']
  have hname : Text.replaceChar '%' tablePrefix (.ofList ('%' :: n.toList)) =
      tablePrefix ++ n := by
    apply String.toList_injective
    rw [Chars.replaceChar] at hpercent
    simp [Text.replaceChar, Chars.replaceChar, hpercent]
  rw [Reference.afterPrefix, Reference.resolve, hname]

/-- A reference with the prefix becomes the quoted name after the prefix. -/
lemma quoteSql_afterPrefix {n : String} (hn : Reference.IsName n.toList) :
    d.quoteSql tablePrefix (.ofList (Reference.afterPrefix n.toList).chars) =
      d.quoteTable (tablePrefix ++ n) := by
  have hresolve := Reference.resolveFrom_chars_append d tablePrefix hn.isWritable_afterPrefix []
  rw [List.append_nil, Reference.resolveFrom, List.append_nil] at hresolve
  apply String.toList_injective
  rw [quoteSql, String.toList_ofList, String.toList_ofList, hresolve, resolve_afterPrefix hn]

/-- The end of a reference is quoted from its first character to its last. -/
lemma exists_quoteTable_label_eq_enclosed {label : List Char}
    (h : ∀ x ∈ label, Reference.isNameChar x = true ∨ x = '\x7d') :
    ∃ cs, (d.quoteTable (.ofList label)).toList = d.enclosed cs := by
  have hforeign {x : Char} (hx : Reference.isNameChar x = false)
      (hx' : x ∉ ['\x7b', '%', '\x7d']) : x ∉ (String.ofList label).toList := by
    rw [String.toList_ofList]
    intro hmem
    rcases h x hmem with hchar | hbrace
    · rw [hx] at hchar
      cases hchar
    · exact hx' (by simp [hbrace])
  have hverbatim : isVerbatimName (.ofList label) = false := by
    apply isVerbatimName_of_not_mem (hforeign (by decide) (by decide))
    intro x hx
    rcases List.mem_pair.mp hx with rfl | rfl
    · exact hforeign (by decide) (by decide)
    · rw [String.toList_ofList]
      intro hmem
      exact absurd (h _ hmem) (by decide)
  exact exists_quoteTable_eq_enclosed hverbatim (hforeign d.opening_not_mem.1 d.opening_not_mem.2)

/-- A reference that is left open by a quote stays as it is. -/
lemma head?_quoteSql_unclosed {before cs : List Char} {label : String}
    (h : ∀ x ∈ before, Reference.isNameChar x = true) (hlabel : label.toList = d.enclosed cs) :
    (d.quoteSql tablePrefix
      (.ofList ('\x7b' :: '\x7b' :: '%' :: before) ++ (" " ++ label))).toList.head? =
        some '\x7b' := by
  have hspace : ∀ x ∈ before ++ [' '], Reference.isNameChar x = true := by
    rw [List.forall_mem_append]
    exact ⟨h, by simp; decide⟩
  have hnone : Reference.ofChars? ('\x7b' :: '\x7b' :: '%' ::
      (before ++ [' '] ++ d.nameQuotes.1 :: (cs ++ [d.nameQuotes.2]))) = none :=
    Reference.ofChars?_unclosed hspace d.opening_not_mem.1 d.opening_not_mem.2
  have hchars : (String.ofList ('\x7b' :: '\x7b' :: '%' :: before) ++ (" " ++ label)).toList =
      '\x7b' :: '\x7b' :: '%' ::
        (before ++ [' '] ++ d.nameQuotes.1 :: (cs ++ [d.nameQuotes.2])) := by
    simp [hlabel, enclosed]
  rw [quoteSql, hchars, String.toList_ofList, Reference.resolveFrom, hnone]
  rfl

end Dialect

/-! ### Queries from a table named by a reference -/

namespace TableRef

variable {n : String}

/-- The reference is taken for a table with an alias only where a part of it reads as one. -/
lemma ofText_afterPrefix (hn : Reference.IsName n.toList) :
    TableRef.ofText (.ofList (Reference.afterPrefix n.toList).chars) =
      match ListText.tableAlias? (Reference.afterPrefix n.toList).chars with
      | some (table, label) => ⟨.table (.ofList table), some (.ofList label)⟩
      | none => ⟨.table (.ofList (Reference.afterPrefix n.toList).chars), none⟩ := by
  have hparen : (Reference.afterPrefix n.toList).chars.contains '(' = false := by
    rw [← Bool.not_eq_true, List.contains_iff_mem]
    exact hn.not_mem_chars (by decide) (by decide)
  simp only [TableRef.ofText, Text.trim, String.toList_ofList, Reference.trim_chars_afterPrefix,
    hparen]
  rfl

/-- A reference to a name with a space is cut there into a table and an alias. -/
lemma exists_ofText_afterPrefix (hn : Reference.IsName n.toList) (hspace : ' ' ∈ n.toList) :
    ∃ before label,
      TableRef.ofText (.ofList (Reference.afterPrefix n.toList).chars) =
        ⟨.table (.ofList ('\x7b' :: '\x7b' :: '%' :: before)), some (.ofList label)⟩ ∧
      (∀ x ∈ before, Reference.isNameChar x = true) ∧
      ∀ x ∈ label, Reference.isNameChar x = true ∨ x = '\x7d' := by
  obtain ⟨⟨table, label⟩, halias⟩ := hn.exists_tableAlias? hspace
  obtain ⟨x, rest, hchars, hblank, hsuffix⟩ := ListText.exists_of_tableAlias? halias
  obtain ⟨before, after, rfl, hname, rfl⟩ := Reference.exists_of_chars_eq_append hchars hblank
  refine ⟨before, label, ?_, ?_, ?_⟩
  · rw [ofText_afterPrefix hn, halias]
  · intro y hy
    exact hn.all y (hname ▸ List.mem_append_left _ hy)
  · intro y hy
    have hmem : y ∈ (x :: after) ++ ['\x7d', '\x7d'] := hsuffix.subset hy
    rcases List.mem_append.mp hmem with hy | hy
    · exact .inl (hn.all y (hname ▸ List.mem_append_right before hy))
    · exact .inr (by simpa using hy)

end TableRef

namespace Query

variable {n : String}

/-- The text is the whole list of tables. -/
lemma fromText_afterPrefix (hn : Reference.IsName n.toList) :
    Query.empty.fromText (.ofList (Reference.afterPrefix n.toList).chars) =
      fromTable (.ofText (.ofList (Reference.afterPrefix n.toList).chars)) := by
  have hne : (Reference.afterPrefix n.toList).chars ≠ [] := by
    simp [Reference.afterPrefix, Reference.chars]
  rw [fromText, ListText.parts_eq_singleton hne (hn.not_mem_chars (by decide) (by decide))
    (hn.not_mem_chars (by decide) (by decide)) (hn.not_mem_chars (by decide) (by decide))
    (Reference.trim_chars_afterPrefix _)]
  rfl

/-- A name without spaces is resolved as a whole. -/
lemma exists_all_of_space_not_mem (c : Connection) (hn : Reference.IsName n.toList)
    (hspace : ' ' ∉ n.toList) :
    ∃ request,
      (Query.empty.fromText (.ofList (Reference.afterPrefix n.toList).chars)).all c = .ok request ∧
      request.call.sql = "SELECT * FROM " ++ c.dialect.quoteTable (c.tablePrefix ++ n) := by
  have halias : ListText.tableAlias? (Reference.afterPrefix n.toList).chars = none := by
    apply ListText.tableAlias?_eq_none
    intro x hx
    rw [← Bool.not_eq_true]
    intro hblank
    exact hspace (hn.eq_space_of_mem_chars hx hblank).2
  have hverbatim := Dialect.isVerbatimName_of_braces ('%' :: (n.toList ++ ['\x7d', '\x7d']))
  have hfragment : (TableRef.ofText (.ofList (Reference.afterPrefix n.toList).chars)).fragment
      c.dialect = ([] ++ [String.ofList (Reference.afterPrefix n.toList).chars]).map .text := by
    rw [TableRef.ofText_afterPrefix hn, halias]
    exact congrArg (fun s => [Piece.text s]) (Dialect.quoteTable_of_isVerbatimName hverbatim)
  have hend : EndsVisibly (String.ofList (Reference.afterPrefix n.toList).chars).toList := by
    rw [String.toList_ofList]
    exact ⟨_, Reference.getLast?_chars_afterPrefix _, by decide⟩
  obtain ⟨request, hrequest, hsql⟩ := exists_all_fromTable c hfragment hend
  refine ⟨request, (congrArg (all · c) (fromText_afterPrefix hn)).trans hrequest, ?_⟩
  rw [hsql, List.nil_append, String.join_cons, String.join_nil, String.append_empty,
    Connection.quoteSql, Dialect.quoteSql_select, Dialect.quoteSql_afterPrefix hn]

/-- A name with a space is cut there, and the reference is not resolved. -/
lemma exists_all_of_space_mem (c : Connection) (hn : Reference.IsName n.toList)
    (hspace : ' ' ∈ n.toList) :
    ∃ request s,
      (Query.empty.fromText (.ofList (Reference.afterPrefix n.toList).chars)).all c = .ok request ∧
      request.call.sql = "SELECT * FROM " ++ s ∧ s.toList.head? = some '\x7b' := by
  obtain ⟨before, label, hcut, hbefore, hlabel⟩ := TableRef.exists_ofText_afterPrefix hn hspace
  obtain ⟨cs, hquoted⟩ := Dialect.exists_quoteTable_label_eq_enclosed (d := c.dialect) hlabel
  have htable : c.dialect.quoteTable (.ofList ('\x7b' :: '\x7b' :: '%' :: before)) =
      .ofList ('\x7b' :: '\x7b' :: '%' :: before) :=
    Dialect.quoteTable_of_isVerbatimName (Dialect.isVerbatimName_of_braces _)
  have hfragment : (TableRef.ofText (.ofList (Reference.afterPrefix n.toList).chars)).fragment
      c.dialect = ([String.ofList ('\x7b' :: '\x7b' :: '%' :: before)] ++
        [" " ++ c.dialect.quoteTable (.ofList label)]).map .text := by
    rw [hcut, TableRef.fragment, TableSource.fragment, htable]
    rfl
  have hend : EndsVisibly (" " ++ c.dialect.quoteTable (.ofList label)).toList := by
    rw [String.toList_append, hquoted]
    exact (c.dialect.endsVisibly_enclosed cs).of_suffix (List.suffix_append _ _)
  obtain ⟨request, hrequest, hsql⟩ := exists_all_fromTable c hfragment hend
  have hjoin : String.join ([String.ofList ('\x7b' :: '\x7b' :: '%' :: before)] ++
      [" " ++ c.dialect.quoteTable (.ofList label)]) =
      .ofList ('\x7b' :: '\x7b' :: '%' :: before) ++
        (" " ++ c.dialect.quoteTable (.ofList label)) := by
    rw [List.singleton_append, String.join_cons, String.join_cons, String.join_nil,
      String.append_empty]
  rw [hjoin, Connection.quoteSql, Dialect.quoteSql_select] at hsql
  exact ⟨request, _, (congrArg (all · c) (fromText_afterPrefix hn)).trans hrequest, hsql,
    Dialect.head?_quoteSql_unclosed hbefore hquoted⟩

/-- A table that is named by a reference after the prefix is asked for by its quoted name exactly if
there is no space in the name. -/
theorem all_fromReference_iff (c : Connection) {n : String} (hn : Reference.IsName n.toList)
    (hquote : c.dialect.nameQuotes.1 ∉ c.tablePrefix.toList)
    (hplain : ∀ x ∈ ['(', '\x7b', '['], x ∉ c.tablePrefix.toList) :
    ∃ request, (Query.empty.fromText ("\x7b\x7b%" ++ n ++ "\x7d\x7d")).all c = .ok request ∧
      (request.call.sql = "SELECT * FROM " ++ c.dialect.quoteTable (c.tablePrefix ++ n) ↔
        ' ' ∉ n.toList) := by
  have hforeign {x : Char} (hx : x ∉ c.tablePrefix.toList)
      (hx' : Reference.isNameChar x = false) : x ∉ (c.tablePrefix ++ n).toList := by
    rw [String.toList_append, List.mem_append, not_or]
    exact ⟨hx, hn.not_mem hx'⟩
  rw [Reference.text_afterPrefix]
  by_cases hspace : ' ' ∈ n.toList
  · obtain ⟨request, s, hrequest, hsql, hhead⟩ := exists_all_of_space_mem c hn hspace
    refine ⟨request, hrequest, iff_of_false ?_ (not_not_intro hspace)⟩
    rw [hsql, String.append_right_inj]
    rintro rfl
    have hverbatim : Dialect.isVerbatimName (c.tablePrefix ++ n) = false := by
      apply Dialect.isVerbatimName_of_not_mem
      · exact hforeign (hplain _ (by simp)) (by decide)
      · intro x hx
        rcases List.mem_pair.mp hx with rfl | rfl
        · exact hforeign (hplain _ (by simp)) (by decide)
        · exact hforeign (hplain _ (by simp)) (by decide)
    obtain ⟨hname, hbrace⟩ := c.dialect.opening_not_mem
    rw [Dialect.head?_quoteTable hverbatim (hforeign hquote hname)] at hhead
    exact hbrace (by simp [Option.some.inj hhead])
  · obtain ⟨request, hrequest, hsql⟩ := exists_all_of_space_not_mem c hn hspace
    exact ⟨request, hrequest, iff_of_true hsql hspace⟩

/-- The second word is quoted as an alias of the first. -/
theorem all_fromReference_iff_twoWords :
    let c : Connection := ⟨.mysql, "tbl_", none, false⟩
    Reference.IsName "a b".toList ∧ c.dialect.nameQuotes.1 ∉ c.tablePrefix.toList ∧
    (∀ x ∈ ['(', '\x7b', '['], x ∉ c.tablePrefix.toList) ∧
    ∃ request, (Query.empty.fromText "\x7b\x7b%a b\x7d\x7d").all c = .ok request ∧
      request.call.sql = "SELECT * FROM \x7b\x7b%a \x60b\x7d\x7d\x60" ∧
      request.call.sql ≠ "SELECT * FROM " ++ c.dialect.quoteTable (c.tablePrefix ++ "a b") := by
  intro c
  have hname : Reference.IsName "a b".toList := ⟨by decide, List.all_eq_true.mp (by decide)⟩
  have hquote : c.dialect.nameQuotes.1 ∉ c.tablePrefix.toList := by decide
  have hplain : ∀ x ∈ ['(', '\x7b', '['], x ∉ c.tablePrefix.toList := by simp [c]
  obtain ⟨request, hrequest, hiff⟩ := all_fromReference_iff c hname hquote hplain
  have hsent : ((Query.empty.fromText "\x7b\x7b%a b\x7d\x7d").all c).map (·.call.sql) =
      .ok "SELECT * FROM \x7b\x7b%a \x60b\x7d\x7d\x60" := by decide +kernel
  have htext : "\x7b\x7b%" ++ "a b" ++ "\x7d\x7d" = "\x7b\x7b%a b\x7d\x7d" := by decide
  rw [htext] at hrequest
  rw [hrequest] at hsent
  exact ⟨hname, hquote, hplain, request, hrequest, Except.ok.inj hsent,
    mt hiff.mp (not_not_intro (by decide))⟩

end Query

end SqlCompose
