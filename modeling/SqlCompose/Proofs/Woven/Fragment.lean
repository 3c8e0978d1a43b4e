import Mathlib
import SqlCompose.Statement
import SqlCompose.Proofs.Woven.Basic

/-!
# Woven fragments

Fragments put together of woven ones are woven, and so is each predicate on values, if the names of
its columns are among the texts.
-/

namespace SqlCompose

variable {d : Dialect} {texts : List String} {f g : Fragment} {fs : List Fragment}
  {s sep column : String}

namespace Fragment

/-- The text of a fragment is woven. -/
def IsWoven (d : Dialect) (texts : List String) (f : Fragment) : Prop := Woven d texts f.marks

/-! ### Text and values -/

lemma isWoven_nil : IsWoven d texts [] := .nil

lemma isWoven_text (h : Woven d texts (charMarks s.toList)) : IsWoven d texts [.text s] := by
  rwa [IsWoven, marks_text_cons, marks_nil, List.append_nil]

lemma isWoven_word (h : s.toList.all isInert = true) : IsWoven d texts [.text s] :=
  isWoven_text (.word h)

lemma isWoven_slot (hint : String) (v : Value) : IsWoven d texts [.slot hint v] := .value

/-- An operand with a word after it. -/
lemma woven_append_word {q : String} (hq : Woven d texts (charMarks q.toList))
    (hs : isClosing s.toList = true) : Woven d texts (charMarks (q ++ s).toList) := by
  rw [String.toList_append, charMarks_append]
  exact hq.append_word hs

lemma isWoven_text_word {q : String} (hq : Woven d texts (charMarks q.toList))
    (hs : isClosing s.toList = true) : IsWoven d texts [.text (q ++ s)] :=
  isWoven_text (woven_append_word hq hs)

/-- An operand with a separator and more after it. -/
lemma isWoven_operand {q : String} (hq : Woven d texts (charMarks q.toList))
    (hs : isSeparator s.toList = true) (hf : IsWoven d texts f) :
    IsWoven d texts (.text (q ++ s) :: f) := by
  rw [IsWoven, marks_text_cons, String.toList_append, charMarks_append, List.append_assoc]
  exact hq.between hs hf

lemma IsWoven.text_cons (hs : isOpening s.toList = true) (hf : IsWoven d texts f) :
    IsWoven d texts (.text s :: f) := hf.word_append hs

/-- Inert characters may follow that go with nothing before them. -/
lemma IsWoven.append_text (hf : IsWoven d texts f) (hs : isClosing s.toList = true) :
    IsWoven d texts (f ++ [.text s]) := by
  rw [IsWoven, marks_append, marks_text_cons, marks_nil, List.append_nil]
  exact Woven.append_word hf hs

/-- Two fragments with a word between them that goes with neither. -/
lemma IsWoven.between (hf : IsWoven d texts f) (hs : isSeparator s.toList = true)
    (hg : IsWoven d texts g) : IsWoven d texts (f ++ .text s :: g) := by
  rw [IsWoven, marks_append, marks_text_cons]
  exact Woven.between hf hs hg

/-! ### Compound fragments -/

lemma IsWoven.bracket (h : IsWoven d texts f) : IsWoven d texts (bracket f) :=
  .text_cons (by decide) (h.append_text (by decide))

/-- A separator goes with nothing around it, so joined fragments are woven. -/
lemma IsWoven.join (hsep : isSeparator sep.toList = true) (h : ∀ f ∈ fs, IsWoven d texts f) :
    IsWoven d texts (join sep fs) := by
  unfold Fragment.join
  induction fs with
  | nil => exact isWoven_nil
  | cons f fs ih =>
    rw [List.forall_mem_cons] at h
    cases fs with
    | nil => simpa using h.1
    | cons g gs =>
      rw [List.intercalate_cons_cons, List.append_assoc]
      exact h.1.between hsep (ih h.2)

/-- What is joined goes on behind what stands before it. -/
lemma woven_append_joinFrom {l : List (Option Char)} (hl : Woven d texts l)
    (hsep : isSeparator sep.toList = true) (h : ∀ f ∈ fs, IsWoven d texts f) :
    Woven d texts (l ++ marks (joinFrom sep true fs)) := by
  induction fs generalizing l with
  | nil => simpa [joinFrom] using hl
  | cons f fs ih =>
    rw [List.forall_mem_cons] at h
    rw [joinFrom]
    split
    · rename_i hblank
      rw [marks_append, marks_of_isBlank hblank]
      exact ih hl h.2
    · rw [if_pos rfl, marks_append, marks_append, marks_text_cons, marks_nil, List.append_nil,
        ← List.append_assoc]
      exact ih (hl.between hsep h.1) h.2

lemma isWoven_joinNonBlank (hsep : isSeparator sep.toList = true)
    (h : ∀ f ∈ fs, IsWoven d texts f) : IsWoven d texts (joinNonBlank sep fs) := by
  unfold joinNonBlank
  induction fs with
  | nil => exact isWoven_nil
  | cons f fs ih =>
    rw [List.forall_mem_cons] at h
    rw [joinFrom, IsWoven]
    split
    · rename_i hblank
      rw [marks_append, marks_of_isBlank hblank]
      exact ih h.2
    · rw [if_neg (by decide), List.nil_append, marks_append]
      exact woven_append_joinFrom h.1 hsep h.2

lemma isWoven_group {conjunction : Bool} {members : List (Bool × Fragment)}
    (h : ∀ m ∈ members, IsWoven d texts m.2) : IsWoven d texts (group conjunction members) := by
  rw [group]
  refine isWoven_joinNonBlank (by cases conjunction <;> decide) ?_
  intro f hf
  obtain ⟨m, hm, rfl⟩ := List.mem_map.mp hf
  dsimp only
  split
  · exact (h m hm).bracket
  · exact h m hm

lemma isWoven_clause {keyword : String} (hk : isOpening (keyword ++ " ").toList = true)
    (h : IsWoven d texts f) : IsWoven d texts (clause keyword f) := by
  unfold clause
  split
  · exact h
  · exact h.text_cons hk

lemma isWoven_listClause {keyword : String} (hk : isOpening (keyword ++ " ").toList = true)
    (h : ∀ f ∈ fs, IsWoven d texts f) : IsWoven d texts (listClause keyword fs) := by
  unfold listClause
  split
  · exact isWoven_nil
  · exact (IsWoven.join (by decide) h).text_cons hk

/-- Trimming drops blanks at the end and nothing else. -/
lemma exists_marks_trimReversed (f : Fragment) :
    ∃ blanks : List Char, blanks.all SqlCompose.isBlank = true ∧
      marks f.reverse = marks (trimReversed f).reverse ++ charMarks blanks := by
  induction f with
  | nil => exact ⟨[], rfl, rfl⟩
  | cons piece rest ih =>
    obtain ⟨blanks, hblanks, hrest⟩ := ih
    rw [List.reverse_cons, marks_append]
    cases piece with
    | text s =>
      obtain ⟨dropped, hdropped, hs⟩ := Chars.exists_eq_trimEnd_append s.toList
      rw [marks_text_cons, marks_nil, List.append_nil]
      simp only [trimReversed]
      split
      · rename_i hempty
        have hs' : s.toList = dropped := by
          rw [hs, ← Text.toList_trimEnd, String.isEmpty_iff.mp hempty]
          rfl
        refine ⟨blanks ++ dropped, by simp [hblanks, hdropped], ?_⟩
        rw [hrest, hs', charMarks_append, List.append_assoc]
      · refine ⟨dropped, hdropped, ?_⟩
        rw [List.reverse_cons, marks_append, marks_text_cons, marks_nil, List.append_nil,
          Text.toList_trimEnd, List.append_assoc, ← charMarks_append, ← hs]
    | supply params =>
      refine ⟨blanks, hblanks, ?_⟩
      rw [trimReversed, List.reverse_cons, marks_append, hrest]
      simp
    | slot hint v => exact ⟨[], rfl, by simp [trimReversed, charMarks]⟩
    | refusal e => exact ⟨[], rfl, by simp [trimReversed, charMarks]⟩

/-- Trimming drops blanks, which hold nothing together. -/
lemma IsWoven.trimEnd (h : IsWoven d texts f) : IsWoven d texts (trimEnd f) := by
  obtain ⟨blanks, hblanks, hmarks⟩ := exists_marks_trimReversed f.reverse
  rw [List.reverse_reverse] at hmarks
  rw [IsWoven, hmarks] at h
  exact h.trim hblanks

/-- A statement with the WHERE clause after it. -/
lemma IsWoven.append_whereClause (hf : IsWoven d texts f) {filter : Option Condition}
    (h : IsWoven d texts (filterFragment d filter)) :
    IsWoven d texts (f ++ whereClause d filter) := by
  unfold whereClause
  dsimp only
  split
  · rename_i hblank
    rw [IsWoven, marks_append, marks_of_isBlank hblank, List.append_nil]
    exact hf
  · exact hf.between (by decide) (isWoven_clause (by decide) h)

/-! ### Membership -/

lemma isWoven_slots (column : String) (vs : List Value) :
    IsWoven d texts (join ", " (vs.map fun v => [.slot column v])) := by
  refine .join (by decide) ?_
  intro f hf
  obtain ⟨v, -, rfl⟩ := List.mem_map.mp hf
  exact isWoven_slot column v

lemma isWoven_ofEmptyList (negated : Bool) : IsWoven d texts (ofEmptyList negated) := by
  cases negated with
  | false => exact isWoven_word (by decide)
  | true => exact isWoven_nil

lemma isWoven_inList (hcolumn : column ∈ texts) (values : List Value) (negated : Bool) :
    IsWoven d texts (inList d column values negated) := by
  have hq : Woven d texts (charMarks (d.quoteColumn column).toList) := woven_quoteColumn hcolumn
  have hnull : IsWoven d texts [.text (d.quoteColumn column ++
      if negated then " IS NOT NULL" else " IS NULL")] :=
    isWoven_text_word hq (by cases negated <;> decide)
  have hwith {f : Fragment} (hf : IsWoven d texts f) : IsWoven d texts
      (if values.any Value.isNull then bracket (join (if negated then " AND " else " OR ")
        [f, [.text (d.quoteColumn column ++
          if negated then " IS NOT NULL" else " IS NULL")]]) else f) := by
    split
    · refine (IsWoven.join (by cases negated <;> decide) ?_).bracket
      simp only [List.forall_mem_cons, List.not_mem_nil, false_implies, implies_true, and_true]
      exact ⟨hf, hnull⟩
    · exact hf
  unfold inList
  dsimp only
  split
  · split
    · exact isWoven_ofEmptyList negated
    · exact hnull
  · exact hwith (isWoven_operand hq (by cases negated <;> decide) (isWoven_slot column _))
  · exact hwith (isWoven_operand hq (by cases negated <;> decide)
      (isWoven_slots column _).bracket)

variable {columns : List String}

lemma woven_nameList (hcolumns : columns ⊆ texts) :
    Woven d texts (charMarks (Text.join ", " (columns.map d.quoteColumn)).toList) := by
  refine woven_textJoin (by decide) ?_
  intro s hs
  obtain ⟨column, hcolumn, rfl⟩ := List.mem_map.mp hs
  exact woven_quoteColumn (hcolumns hcolumn)

/-- A list of names in parentheses. -/
lemma woven_names (hcolumns : columns ⊆ texts) :
    Woven d texts (charMarks
      ("(" ++ Text.join ", " (columns.map d.quoteColumn) ++ ")").toList) := by
  rw [String.toList_append, String.toList_append, charMarks_append, charMarks_append,
    List.append_assoc]
  exact ((woven_nameList hcolumns).append_word (by decide)).word_append (by decide)

lemma woven_columnTuple (hcolumns : columns ⊆ texts) :
    Woven d texts (charMarks (columnTuple d columns).toList) := by
  match columns with
  | [column] => exact woven_quoteColumn (hcolumns List.mem_cons_self)
  | [] | _ :: _ :: _ => exact woven_names hcolumns

lemma isWoven_zip_slots {columns : List String} (row : List Value)
    (value : String → Value → Value) :
    IsWoven d texts (bracket (join ", " ((columns.zip row).map fun (column, v) =>
      [.slot column (value column v)]))) := by
  refine (IsWoven.join (by decide) ?_).bracket
  intro f hf
  obtain ⟨⟨column, v⟩, -, rfl⟩ := List.mem_map.mp hf
  exact isWoven_slot column _

lemma isWoven_equalsRow (hcolumns : columns ⊆ texts) (row : List Value) :
    IsWoven d texts (equalsRow d columns row) := by
  refine .join (by decide) ?_
  intro f hf
  obtain ⟨⟨column, v⟩, hpair, rfl⟩ := List.mem_map.mp hf
  have hq : Woven d texts (charMarks (d.quoteColumn column).toList) :=
    woven_quoteColumn (hcolumns (List.of_mem_zip hpair).1)
  dsimp only
  split
  · exact isWoven_text_word hq (by decide)
  · exact isWoven_operand hq (by decide) (isWoven_slot column v)

lemma isWoven_inRowsExpanded (hcolumns : columns ⊆ texts) (rows : List (List Value))
    (negated : Bool) : IsWoven d texts (inRowsExpanded d columns rows negated) := by
  have hrows : ∀ f ∈ rows.map (equalsRow d columns), IsWoven d texts f := by
    intro f hf
    obtain ⟨row, -, rfl⟩ := List.mem_map.mp hf
    exact isWoven_equalsRow hcolumns row
  have hnegate {f : Fragment} (hf : IsWoven d texts f) :
      IsWoven d texts (.text "NOT " :: bracket f) := hf.bracket.text_cons (by decide)
  simp only [inRowsExpanded]
  split
  · rename_i row hrow
    have hf : IsWoven d texts row := hrows row (by rw [hrow]; exact List.mem_cons_self)
    split
    · exact hnegate hf
    · exact hf
  · have hany : IsWoven d texts (join " OR " ((rows.map (equalsRow d columns)).map bracket)) := by
      refine .join (by decide) ?_
      intro f hf
      obtain ⟨g, hg, rfl⟩ := List.mem_map.mp hf
      exact (hrows g hg).bracket
    split
    · exact hnegate hany
    · exact hany.bracket

lemma isWoven_inRows (hcolumns : columns ⊆ texts) (rows : List (List Value)) (negated : Bool) :
    IsWoven d texts (inRows d columns rows negated) := by
  unfold inRows
  split
  · exact isWoven_nil
  · split_ifs
    · exact isWoven_ofEmptyList negated
    · refine isWoven_operand (woven_columnTuple hcolumns) (by cases negated <;> decide) ?_
      refine (IsWoven.join (by decide) ?_).bracket
      intro f hf
      obtain ⟨row, -, rfl⟩ := List.mem_map.mp hf
      exact isWoven_zip_slots row fun _ v => v
    · exact isWoven_inRowsExpanded hcolumns rows negated

/-! ### LIKE conditions -/

lemma isWoven_like (hcolumn : column ∈ texts) (op : LikeOp) (values : List Value)
    (rawPattern : Bool) : IsWoven d texts (like d op column values rawPattern) := by
  have hq : Woven d texts (charMarks (d.quoteColumn column).toList) := woven_quoteColumn hcolumn
  have hvalue (v : Value) : IsWoven d texts (likeValue d op column rawPattern v) := by
    have hkeyword : isSeparator (" " ++ (likeKeyword d op ++ " ")).toList = true := by
      cases d <;> cases op <;> decide
    unfold likeValue
    simp only [String.append_assoc]
    split_ifs
    · exact isWoven_nil
    · exact isWoven_operand hq hkeyword (isWoven_slot column _)
    · refine isWoven_operand hq hkeyword ?_
      exact (isWoven_slot column _).append_text (by cases d <;> decide)
  have hvalues : ∀ f ∈ values.map (likeValue d op column rawPattern), IsWoven d texts f := by
    intro f hf
    obtain ⟨v, -, rfl⟩ := List.mem_map.mp hf
    exact hvalue v
  unfold like
  split
  · exact isWoven_ofEmptyList _
  · rename_i one h
    exact hvalues one (by rw [h]; exact List.mem_cons_self)
  · exact (IsWoven.join (by cases op <;> decide) hvalues).bracket

/-! ### Lookups -/

variable {field : String} {lookup : Lookup} {operand : Operand}

lemma isWoven_ofScalar {predicate : Value → Fragment} (h : ∀ v, IsWoven d texts (predicate v)) :
    IsWoven d texts (ofScalar lookup operand predicate) := by
  cases operand with
  | value v => exact h v
  | _ => exact isWoven_nil

lemma isWoven_nullText (hfield : Woven d texts (charMarks field.toList)) :
    IsWoven d texts [.text (field ++ " IS NULL")] := isWoven_text_word hfield (by decide)

/-- A text around a field, with a value and a text after it. -/
lemma isWoven_around {opening closing after : String} (hopening : isOpening opening.toList = true)
    (hfield : Woven d texts (charMarks field.toList)) (hclosing : isSeparator closing.toList = true)
    (hafter : isClosing after.toList = true) (v : Value) :
    IsWoven d texts [.text (opening ++ field ++ closing), .slot field v, .text after] := by
  have hrest : IsWoven d texts ([.slot field v] ++ [.text after]) :=
    (isWoven_slot field v).append_text hafter
  rw [IsWoven, marks_text_cons, String.append_assoc, String.toList_append, charMarks_append,
    String.toList_append, charMarks_append, List.append_assoc, List.append_assoc]
  exact (hfield.between hclosing hrest).word_append hopening

lemma isWoven_ofPattern (hfield : Woven d texts (charMarks field.toList)) (pattern : Pattern)
    (ignoreCase : Bool) :
    IsWoven d texts (ofPattern d lookup field pattern ignoreCase operand) := by
  refine isWoven_ofScalar fun v => ?_
  split
  · exact isWoven_nil
  · unfold likePattern
    split
    · exact isWoven_operand hfield (by decide) (isWoven_slot field _)
    · exact isWoven_around (by decide) hfield (by decide) (by decide) _
    · exact isWoven_operand hfield (by decide)
        ((isWoven_slot field _).append_text (by cases d <;> decide))

lemma isWoven_comparison (hfield : Woven d texts (charMarks field.toList)) (op : CompareOp)
    (v : Value) : IsWoven d texts (comparison field op v) := by
  unfold comparison
  rw [String.append_assoc, String.append_assoc]
  exact isWoven_operand hfield (by cases op <;> decide) (isWoven_slot field v)

lemma isWoven_amongValues (hfield : Woven d texts (charMarks field.toList)) (values : List Value) :
    IsWoven d texts (amongValues field values) := by
  unfold amongValues
  split
  · exact isWoven_word (by decide)
  · exact isWoven_operand hfield (by decide) (isWoven_slots field values).bracket

/-- The one double colon of a statement is that of a cast. -/
lemma woven_extraction (hfield : Woven d texts (charMarks field.toList)) (part : DatePart) :
    Woven d texts (charMarks (extraction d part field).toList) := by
  have haround {opening closing : String} (hopening : isOpening opening.toList = true)
      (hclosing : isClosing closing.toList = true) :
      Woven d texts (charMarks (opening ++ field ++ closing).toList) := by
    rw [String.append_assoc, String.toList_append, charMarks_append]
    exact (woven_append_word hfield hclosing).word_append hopening
  unfold extraction
  split
  · cases part <;> exact haround (by decide) (by decide)
  · have hword : Woven .pgsql texts (charMarks "timestamp)".toList) := .word (by decide)
    have hcast : Woven .pgsql texts (charMarks "::timestamp)".toList) :=
      Woven.cast.glue hword (.inl (by decide))
    have hopening : isOpening ("EXTRACT(" ++ part.sqlName ++ " FROM ").toList = true := by
      cases part <;> decide
    have hstart : startsLoose (charMarks "::timestamp)".toList) = true := by decide
    have htimestamp : Woven .pgsql texts (charMarks (field ++ "::timestamp)").toList) := by
      rw [String.toList_append, charMarks_append]
      exact hfield.glue hcast (.inr hstart)
    rw [String.append_assoc, String.toList_append, charMarks_append]
    exact htimestamp.word_append hopening
  · cases part <;> exact haround (by decide) (by decide)
  · split
    · exact haround (by decide) (by decide)
    · exact haround (by cases part <;> decide) (by decide)
  · split
    · exact haround (by decide) (by decide)
    · exact haround (by cases part <;> decide) (by decide)

lemma isWoven_datePart (hfield : Woven d texts (charMarks field.toList)) (part : DatePart)
    (v : Value) : IsWoven d texts (datePart d part field v) := by
  unfold datePart
  dsimp only
  split
  · exact isWoven_nil
  · split
    · exact isWoven_nil
    · exact isWoven_operand (woven_extraction hfield part) (by decide) (isWoven_slot field _)

/-- A lookup is woven from its field, whatever it is given. -/
lemma isWoven_lookup (hfield : Woven d texts (charMarks field.toList)) (operand : Operand) :
    IsWoven d texts (lookup.fragment d field operand) := by
  cases lookup with
  | contains | icontains | startsWith | istartsWith | endsWith | iendsWith =>
    exact isWoven_ofPattern hfield ..
  | exact =>
    refine isWoven_ofScalar fun v => ?_
    unfold exactly
    split
    · exact isWoven_nullText hfield
    · exact isWoven_operand hfield (by decide) (isWoven_slot field v)
  | iexact =>
    refine isWoven_ofScalar fun v => ?_
    unfold exactlyIgnoringCase
    split
    · exact isWoven_nullText hfield
    · exact isWoven_around (by decide) hfield (by decide) (by decide) v
  | gt | gte | lt | lte => exact isWoven_ofScalar (isWoven_comparison hfield _)
  | range =>
    simp only [Lookup.fragment]
    split
    · exact isWoven_operand hfield (by decide)
        ((isWoven_slot field _).between (by decide) (isWoven_slot field _))
    · exact isWoven_nil
  | within =>
    cases operand with
    | value v => exact isWoven_amongValues hfield [v]
    | list values => exact isWoven_amongValues hfield values
    | _ => exact isWoven_nil
  | isNull =>
    refine isWoven_ofScalar fun v => ?_
    unfold nullCheck
    split
    · exact isWoven_nullText hfield
    · exact isWoven_text_word hfield (by decide)
    · exact isWoven_nil
  | regex =>
    refine isWoven_ofScalar fun v => ?_
    unfold regex
    split
    · exact isWoven_operand hfield (by decide) (isWoven_slot field v)
    · exact isWoven_nil
    · exact isWoven_operand hfield (by decide) (isWoven_slot field v)
  | iregex =>
    refine isWoven_ofScalar fun v => ?_
    unfold regex
    split
    · exact isWoven_operand hfield (by decide) (isWoven_slot field v)
    · exact isWoven_nil
    · exact isWoven_operand hfield (by decide) (isWoven_slot field v)
  | part p => exact isWoven_ofScalar (isWoven_datePart hfield p)
  | search => exact isWoven_nil

end Fragment

end SqlCompose
