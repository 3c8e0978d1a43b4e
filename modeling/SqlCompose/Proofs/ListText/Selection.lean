import Mathlib
import SqlCompose.Proofs.Fragment.Around
import SqlCompose.Proofs.ListText.Part

/-!
# Selections written as text

A selection is written as a list of expressions, some with an alias. The alias is found behind the
last word AS, whatever words and blanks its expression has, and an expression without blanks has no
alias. In the statement each expression stands as its quoted name, with its quoted alias if it has
one, and what stands around the items does not depend on them.
-/

namespace SqlCompose

open Fragment

/-! ### Items -/

/-- An expression that is selected, with or without an alias. -/
structure ColumnText where
  expr : String
  label : Option String

namespace ColumnText

variable {d : Dialect} {c : ColumnText} {items : List ColumnText}

/-- A name of word characters and hyphens that is no numeral. -/
structure IsLabel (label : List Char) : Prop where
  ne_nil : label ≠ []
  word : ∀ x ∈ label, isWordChar x = true ∨ x = '-'
  notNumeral : ¬∀ x ∈ label, x.isDigit = true

/-- The expression is a part of a list on one line, and has no blank unless an alias stands behind
it. -/
structure IsWritten (c : ColumnText) : Prop where
  part : ListText.IsPart c.expr.toList
  oneLine : '\n' ∉ c.expr.toList
  noBlank : c.label = none → ∀ x ∈ c.expr.toList, isBlank x = false
  isLabel : ∀ label ∈ c.label, IsLabel label.toList

def text (c : ColumnText) : String :=
  match c.label with
  | none => c.expr
  | some label => c.expr ++ " AS " ++ label

def list (items : List ColumnText) : String := Text.join ", " (items.map text)

def item (c : ColumnText) : SelectItem := ⟨.column c.expr, c.label⟩

/-- What is written for an item: the expression is quoted as the name of a column is, the alias
always. -/
def sql (d : Dialect) (c : ColumnText) : String :=
  match c.label with
  | none => d.quoteColumn c.expr
  | some label => d.quoteColumn c.expr ++ " AS " ++ .ofList (d.enclosed label.toList)

/-- What is written for some items: without any, all columns are selected. -/
def listSql (d : Dialect) (items : List ColumnText) : String :=
  if items.isEmpty then "*" else Text.join ", " (items.map (sql d))

/-! ### Reading -/

section Label

variable {label : List Char}

lemma IsLabel.not_mem (h : IsLabel label) {x : Char} (hword : isWordChar x = false)
    (hhyphen : x ≠ '-') : x ∉ label := by
  intro hx
  rcases h.word x hx with hx | hx
  · rw [hword] at hx
    cases hx
  · exact hhyphen hx

/-- Marks that are neither word characters nor hyphens stand in no label. -/
lemma IsLabel.not_mem_of_all (h : IsLabel label) {marks : List Char}
    (hmarks : marks.all (fun x => !isWordChar x && x != '-') = true) : ∀ x ∈ marks, x ∉ label := by
  intro x hx
  have hother := List.all_eq_true.mp hmarks x hx
  simp only [Bool.and_eq_true, Bool.not_eq_true', bne_iff_ne] at hother
  exact h.not_mem hother.1 hother.2

lemma IsLabel.isWord (h : IsLabel label) : ListText.IsWord label where
  ne_nil := h.ne_nil
  noBlank x hx := by
    rw [← Bool.not_eq_true]
    intro hblank
    refine h.not_mem (isWordChar_eq_false_of_isBlank hblank) ?_ hx
    rintro rfl
    exact absurd hblank (by decide)
  noMark x hx hmark := h.not_mem_of_all (by decide +kernel) x hmark hx

lemma isColumnAlias_iff : ListText.isColumnAlias label = true ↔ IsLabel label := by
  have hcheck : ListText.isColumnAlias label = true ↔ label ≠ [] ∧
      (∀ x ∈ label, isWordChar x = true ∨ x = '-') ∧ ¬∀ x ∈ label, x.isDigit = true := by
    simp [ListText.isColumnAlias, and_assoc]
  exact hcheck.trans ⟨fun h => ⟨h.1, h.2.1, h.2.2⟩, fun h => ⟨h.ne_nil, h.word, h.notNumeral⟩⟩

lemma isWord_as : ListText.IsWord ['A', 'S'] := by
  have hblank : isBlank 'A' = false ∧ isBlank 'S' = false := by decide
  exact ⟨by simp, by simpa using hblank, by simp⟩

/-- The alias after the keyword is found. -/
lemma columnAlias?_as {expr : List Char} (hexpr : ListText.IsPart expr) (hline : '\n' ∉ expr)
    (hlabel : IsLabel label) :
    ListText.columnAlias? ((expr ++ ' ' :: ['A', 'S']) ++ ' ' :: label) = some (expr, label) := by
  have hlast := (hexpr.append_word isWord_as).splitLastWord?_append hlabel.isWord
  have hdrop : ListText.dropAs (expr ++ ' ' :: ['A', 'S']) = expr := by
    rw [ListText.dropAs, hexpr.splitLastWord?_append isWord_as]
    rfl
  simp only [ListText.columnAlias?, hlast, hdrop, isColumnAlias_iff.mpr hlabel, hexpr.trimmed]
  simp [hline, hexpr.ne_nil]

end Label

/-- An alias stands behind the keyword and a blank. -/
lemma toList_text_some {label : String} (h : c.label = some label) :
    c.text.toList = (c.expr.toList ++ ' ' :: ['A', 'S']) ++ ' ' :: label.toList := by
  rw [text, h]
  simp

/-- An item that is written as it should be is a part of a list. -/
lemma IsWritten.isPart_text (h : c.IsWritten) : ListText.IsPart c.text.toList := by
  cases hlabel : c.label with
  | none =>
    rw [text, hlabel]
    exact h.part
  | some label =>
    rw [toList_text_some hlabel]
    exact (h.part.append_word isWord_as).append_word (h.isLabel label hlabel).isWord

/-- An item is read as it was meant. -/
lemma IsWritten.ofText_text (h : c.IsWritten) : SelectItem.ofText c.text = c.item := by
  cases hlabel : c.label with
  | none =>
    have hnone : ListText.columnAlias? c.text.toList = none := by
      rw [text, hlabel, ListText.columnAlias?,
        ListText.splitLastWord?_eq_none (h.noBlank hlabel)]
    rw [SelectItem.ofText, hnone, item, text, hlabel]
  | some label =>
    have hsome := columnAlias?_as h.part h.oneLine (h.isLabel label hlabel)
    rw [← toList_text_some hlabel] at hsome
    rw [SelectItem.ofText, hsome, item, hlabel]
    simp

lemma selectText_list (h : ∀ c ∈ items, c.IsWritten) (q : Query) :
    q.selectText (list items) = { q with select := items.map item } := by
  have hparts : ListText.parts (list items) = items.map text := by
    apply ListText.parts_join
    simpa using fun c hc => (h c hc).isPart_text
  have hitems : (items.map text).map SelectItem.ofText = items.map item := by
    rw [List.map_map]
    exact List.map_congr_left fun c hc => (h c hc).ofText_text
  rw [Query.selectText, hparts, hitems]

end ColumnText

/-! ### Quoting -/

namespace Dialect

variable {d : Dialect} {name : String}

/-- What is written for a name ends with its last character, a quote or the star. -/
lemma endsVisibly_quoteColumn (h : EndsVisibly name.toList) :
    EndsVisibly (d.quoteColumn name).toList := by
  cases hverbatim : isVerbatimName name with
  | true => rwa [quoteColumn_of_isVerbatimName hverbatim]
  | false =>
    obtain ⟨before, last, hsegments⟩ :=
      (List.eq_nil_or_concat' (name.toList.splitOn '.')).resolve_left (List.splitOn_ne_nil '.' _)
    have hsuffix : last <:+ name.toList := by
      have hname : ['.'].intercalate (name.toList.splitOn '.') = name.toList :=
        List.intercalate_splitOn '.'
      rw [← hname, hsegments]
      exact Chars.suffix_intercalate_concat '.' before last
    rw [toList_quoteColumn hverbatim, hsegments, NamePart.ofColumn_concat, nameChars,
      List.map_append, List.map_singleton]
    refine EndsVisibly.of_suffix ?_ (Chars.suffix_intercalate_concat '.' _ _)
    split
    · exact ⟨'*', rfl, by decide⟩
    · rw [partChars]
      split
      · rename_i hopening
        obtain ⟨c, hc, hblank⟩ := h
        obtain ⟨before, hname⟩ := hsuffix
        rw [← hname, List.getLast?_append_of_ne_nil _ (List.ne_nil_of_mem hopening)] at hc
        exact ⟨c, hc, hblank⟩
      · exact endsVisibly_enclosed d last

end Dialect

/-- An alias is quoted as a whole. -/
lemma ColumnText.IsLabel.quoteColumn {d : Dialect} {label : String} (h : IsLabel label.toList) :
    d.quoteColumn label = .ofList (d.enclosed label.toList) := by
  have hmarks : ∀ x ∈ ['(', '.', '*'], x ∉ label.toList := h.not_mem_of_all (by decide +kernel)
  simp only [List.forall_mem_cons] at hmarks
  obtain ⟨hparen, hdot, hstar, -⟩ := hmarks
  have hbrackets : ∀ x ∈ openingBrackets, x ∉ label.toList := h.not_mem_of_all (by decide +kernel)
  have hopening : d.nameQuotes.1 ∉ label.toList := by
    refine h.not_mem ?_ ?_ <;> cases d <;> decide +kernel
  have hne : label.toList ≠ ['*'] := fun hlabel => hstar (by simp [hlabel])
  have hpart := NamePart.ofColumn_concat [] label.toList
  rw [List.nil_append, if_neg hne] at hpart
  apply String.toList_injective
  rw [Dialect.toList_quoteColumn (Dialect.isVerbatimName_of_not_mem hparen hbrackets),
    List.splitOn_eq_singleton hdot, hpart, String.toList_ofList]
  simp [Dialect.nameChars, Dialect.partChars, hopening]

/-! ### The statement -/

namespace ColumnText

variable {d : Dialect} {c : ColumnText} {items : List ColumnText}

/-- An item is written as one text of its own. -/
lemma IsWritten.exists_selectFragments (h : c.IsWritten) (d : Dialect) (rest : List SelectItem) :
    ∃ f : Fragment, selectFragments d (c.item :: rest) = f :: selectFragments d rest ∧
      f.Spells (c.sql d) := by
  have hexpr : EndsVisibly (d.quoteColumn c.expr).toList := by
    apply Dialect.endsVisibly_quoteColumn
    obtain ⟨x, hx⟩ := Option.ne_none_iff_exists'.mp (mt List.getLast?_eq_none_iff.mp h.part.ne_nil)
    exact ⟨x, hx, h.part.isBlank_getLast? x hx⟩
  cases hlabel : c.label with
  | none =>
    refine ⟨[.text (d.quoteColumn c.expr)], ?_, ?_⟩
    · rw [item, hlabel, selectFragments, Selectable.fragment]
    · rw [sql, hlabel]
      exact .last hexpr
  | some label =>
    have hquoted := (h.isLabel label hlabel).quoteColumn (d := d)
    refine ⟨[.text (d.quoteColumn c.expr), .text (" AS " ++ d.quoteColumn label)], ?_, ?_⟩
    · rw [item, hlabel, selectFragments, Selectable.fragment]
      rfl
    · rw [sql, hlabel, hquoted]
      simp only [String.append_assoc]
      exact .cons _ (.last ((d.endsVisibly_enclosed label.toList).of_suffix
        ⟨" AS ".toList, by simp⟩))

lemma forall₂_selectFragments (h : ∀ c ∈ items, c.IsWritten) (d : Dialect) :
    List.Forall₂ Spells (selectFragments d (items.map item)) (items.map (sql d)) := by
  induction items with
  | nil => exact .nil
  | cons c items ih =>
    rw [List.forall_mem_cons] at h
    obtain ⟨f, hfragments, hf⟩ := h.1.exists_selectFragments d (items.map item)
    rw [List.map_cons, List.map_cons, hfragments]
    exact .cons hf (ih h.2)

/-- A SELECT list is a blank and then its items. -/
lemma spells_selectList (h : ∀ c ∈ items, c.IsWritten) (d : Dialect) :
    (selectList d (items.map item)).Spells (" " ++ listSql d items) := by
  cases items with
  | nil => exact .last ⟨'*', rfl, by decide⟩
  | cons c items =>
    have hfragments := forall₂_selectFragments h d
    have hne : selectFragments d ((c :: items).map item) ≠ [] := by
      rw [← List.length_pos_iff, hfragments.length_eq]
      simp
    exact .cons " " (spells_join hfragments hne ", ")

lemma namesOfSelect_map_item (items : List ColumnText) : namesOfSelect (items.map item) = [] := by
  induction items with
  | nil => rfl
  | cons c items ih =>
    rw [List.map_cons, item, namesOfSelect, Selectable.suppliedNames, ih]
    rfl

end ColumnText

namespace Query

/-- The text of a query before its SELECT list. -/
def untilSelection (d : Dialect) (q : Query) : Fragment :=
  .supply q.params :: ((if !q.unions.isEmpty && d.parenthesizesUnion then [.text "("] else []) ++
    (.text "SELECT" :: Fragment.distinct d q.distinct ++ selectModifier q.selectOption))

/-- A query with a list that is a text, which trimming does not reach. -/
lemma fragment_eq_of_spells {d : Dialect} {items : List SelectItem} {s : String}
    (h : (selectList d items).Spells s) (q : Query) :
    { q with select := items }.fragment d =
      q.untilSelection d ++ selectList d items ++ trimEnd (q.onwards d 1) := by
  have hupTo : { q with select := items }.upTo d 1 = q.untilSelection d ++ selectList d items := by
    simp [upTo, untilSelection, clauses, joinNonBlank, joinFrom, Fragment.isBlank, Piece.isBlank]
  rw [fragment_eq_append d _ one_ne_zero, hupTo]
  exact trimEnd_append_of_trimmed (h.trimEnd_append _)

end Query

namespace Builder

/-- What is written before and after the SELECT list of a query, and the parameters. -/
def aroundSelection (b : Builder) (q : Query) : Outcome (String × String × Option Params) :=
  let (around, binding) := ((Binding.start b.dialect b.inlineValues).reserve
    { q with select := [] }.suppliedNames).around (q.untilSelection b.dialect)
      (trimEnd (q.onwards b.dialect 1))
  around.map fun (before, after) =>
    (before ++ " ", after, if binding.params.isEmpty then none else some binding.params)

end Builder

namespace ColumnText

variable {items : List ColumnText}

lemma suppliedNames_selectText (q : Query) (items : List ColumnText) :
    { q with select := items.map item }.suppliedNames = { q with select := [] }.suppliedNames := by
  rw [Query.suppliedNames, Query.suppliedNames, namesOfSelect_map_item]
  rfl

/-- Whatever is selected, the text around it is the same. -/
lemma build_eq_aroundSelection (h : ∀ c ∈ items, c.IsWritten) (b : Builder) (q : Query) :
    b.build (.select { q with select := items.map item }) =
      (b.aroundSelection q).map fun (before, after, params) =>
        ⟨before ++ listSql b.dialect items ++ after, params⟩ := by
  have hspells := spells_selectList h b.dialect
  rw [Builder.build, Statement.fragment, Statement.suppliedNames, suppliedNames_selectText,
    Built.ofFragment, Query.fragment_eq_of_spells hspells, Binding.write_around hspells,
    Builder.aroundSelection]
  generalize Binding.around _ _ _ = written
  obtain ⟨_ | ⟨before, after⟩, binding⟩ := written
  · rfl
  · simp [Except.map, Built.of, String.append_assoc]

/-- The text of a selection is read as the items that were meant, in order. They are written as
quoted expressions with quoted aliases, and what is written around them is the same for all
selections, the empty one included, which selects all columns. -/
theorem build_selectText (b : Builder) (q : Query) :
    ∃ around : Outcome (String × String × Option Params),
      (q = .empty → around = .ok ("SELECT ", "", none)) ∧
      ∀ items : List ColumnText, (∀ c ∈ items, c.IsWritten) →
        (q.selectText (list items)).select = items.map item ∧
        b.build (.select (q.selectText (list items))) =
          around.map fun (before, after, params) =>
            ⟨before ++ listSql b.dialect items ++ after, params⟩ := by
  refine ⟨b.aroundSelection q, ?_, fun items h => ?_⟩
  · rintro rfl
    obtain ⟨d, schema, inline⟩ := b
    cases d <;> rfl
  · rw [selectText_list h]
    exact ⟨rfl, build_eq_aroundSelection h b q⟩

/-- Commas in a call, a hyphen in an alias and the word AS at the end of an expression. -/
theorem build_selectText_words :
    let items : List ColumnText :=
      [⟨"COALESCE(a, b) + 1", some "c-d"⟩, ⟨"x as", some "y"⟩, ⟨"u.id", none⟩]
    (∀ c ∈ items, c.IsWritten) ∧
    list items = "COALESCE(a, b) + 1 AS c-d, x as AS y, u.id" ∧
    (Query.empty.selectText (list items)).select = items.map item ∧
    (Builder.mk .mysql none false).build (.select (Query.empty.selectText (list items))) =
      .ok ⟨"SELECT COALESCE(a, b) + 1 AS `c-d`, `x as` AS `y`, `u`.`id`", none⟩ := by
  intro items
  have harguments : ListText.IsClosed true "a, b".toList :=
    (ListText.isClosed_of_all (s := ['a']) (by decide)).append
      (.char (by decide) (by decide) (fun _ => rfl) (ListText.isClosed_of_all (by decide)))
  have hcall : ListText.IsPart "COALESCE(a, b) + 1".toList :=
    ⟨by decide, by decide, (ListText.isClosed_of_all (s := "COALESCE".toList) (by decide)).append
      (.parens harguments (ListText.isClosed_of_all (by decide)))⟩
  have hwords : ListText.IsPart "x as".toList :=
    ⟨by decide, by decide, ListText.isClosed_of_all (by decide)⟩
  have hcolumn : ListText.IsPart "u.id".toList :=
    ⟨by decide, by decide, ListText.isClosed_of_all (by decide)⟩
  have hlabels : IsLabel "c-d".toList ∧ IsLabel "y".toList :=
    ⟨isColumnAlias_iff.mp (by decide +kernel), isColumnAlias_iff.mp (by decide +kernel)⟩
  have hwritten : ∀ c ∈ items, c.IsWritten := by
    simp only [items, List.forall_mem_cons]
    exact ⟨⟨hcall, by decide, by simp, by simpa using hlabels.1⟩,
      ⟨hwords, by decide, by simp, by simpa using hlabels.2⟩,
      ⟨hcolumn, by decide, fun _ => by simp; decide, by simp⟩, by simp⟩
  obtain ⟨around, hempty, hall⟩ := build_selectText (Builder.mk .mysql none false) Query.empty
  obtain ⟨hselect, hbuild⟩ := hall items hwritten
  rw [hempty rfl] at hbuild
  exact ⟨hwritten, by decide, hselect, hbuild.trans (by decide +kernel)⟩

end ColumnText

end SqlCompose
