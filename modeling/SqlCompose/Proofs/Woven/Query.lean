import Mathlib
import SqlCompose.Proofs.Draft
import SqlCompose.Proofs.Woven.Fragment

/-!
# Woven statements

The texts that come with a description are its names and what is taken over verbatim, wherever in it
they stand. Whatever else is written is a word of the library or a value, so every statement, and
every condition, is woven from its texts.
-/

namespace SqlCompose

open Fragment

/-! ### The texts of a description -/

/-- The texts of an entry of an ordering. -/
def OrderItem.texts : OrderItem → List String
  | .column name _ => [name]
  | .expr e => [e.sql]
  | .random => []

/-- The columns that rows are told apart by. -/
def Distinct.texts : Distinct → List String
  | .on columns => columns
  | .no | .all => []

/-- The keyword of a join, if it is none of the library's own. -/
def JoinKind.texts : JoinKind → List String
  | .custom keyword => [keyword]
  | _ => []

mutual
def Operand.texts : Operand → List String
  | .value _ | .list _ => []
  | .query q => q.texts
  | .expr e => [e.sql]

/-- The texts of a hash: its columns and those of its operands. -/
def textsOfPairs : List (String × Operand) → List String
  | [] => []
  | (column, operand) :: pairs => column :: (operand.texts ++ textsOfPairs pairs)

/-- The texts of a condition. -/
def Condition.texts : Condition → List String
  | .hash pairs => textsOfPairs pairs
  | .and items | .or items => textsOfConditions items
  | .not item => item.texts
  | .between column _ _ _ => [column]
  | .within columns (.query q) _ => columns ++ q.texts
  | .within columns (.list _) _ | .within columns (.rows _) _ => columns
  | .like _ column _ _ => [column]
  | .exist q _ => q.texts
  | .compare column _ operand => column :: operand.texts
  | .raw sql _ => [sql]
  | .expr e => [e.sql]
  | .lookup field _ operand => field :: operand.texts

def textsOfConditions : List Condition → List String
  | [] => []
  | item :: items => item.texts ++ textsOfConditions items

def textsOfFilter : Option Condition → List String
  | none => []
  | some c => c.texts

def Selectable.texts : Selectable → List String
  | .column name => [name]
  | .expr e => [e.sql]
  | .query q => q.texts

def textsOfGrouping : List Selectable → List String
  | [] => []
  | item :: items => item.texts ++ textsOfGrouping items

def textsOfSelect : List SelectItem → List String
  | [] => []
  | ⟨item, label⟩ :: items => item.texts ++ label.toList ++ textsOfSelect items

def TableSource.texts : TableSource → List String
  | .table name => [name]
  | .query q => q.texts
  | .expr e => [e.sql]

/-- The texts of the sources of rows, their aliases included. -/
def textsOfTables : List TableRef → List String
  | [] => []
  | ⟨source, label⟩ :: tables => source.texts ++ label.toList ++ textsOfTables tables

def textsOfJoins : List Join → List String
  | [] => []
  | ⟨kind, ⟨source, label⟩, on⟩ :: joins =>
    kind.texts ++ (source.texts ++ label.toList) ++ textsOfFilter on ++ textsOfJoins joins

def textsOfUnions : List UnionMember → List String
  | [] => []
  | ⟨q, _⟩ :: unions => q.texts ++ textsOfUnions unions

/-- The texts of a query. -/
def Query.texts : Query → List String
  | ⟨select, option, distinct, tables, joins, filter, groupBy, having, orderBy, unions,
      _, _, _, _⟩ =>
    option.toList ++ distinct.texts ++ textsOfSelect select ++ textsOfTables tables ++
      textsOfJoins joins ++ textsOfFilter filter ++ textsOfGrouping groupBy ++
      textsOfFilter having ++ orderBy.flatMap OrderItem.texts ++ textsOfUnions unions
end

def Statement.texts : Statement → List String
  | .select q => q.texts
  | .insert table columns => table :: textsOfPairs columns
  | .insertFrom table columns q => table :: (columns ++ q.texts)
  | .batchInsert table columns _ => table :: columns
  | .update table columns filter => table :: (textsOfPairs columns ++ textsOfFilter filter)
  | .delete table filter => table :: textsOfFilter filter
  | .truncateTable table | .dropTable table => [table]

def Draft.texts : Draft → List String
  | .statement s => s.texts
  | .condition c => c.texts

variable {d : Dialect} {texts : List String}

/-! ### Clauses -/

namespace Fragment

lemma isWoven_verbatim {s : String} (h : s ∈ texts) : IsWoven d texts [.text s] :=
  isWoven_text (.part h List.infix_rfl)

lemma isWoven_trimmed {s : String} (h : s ∈ texts) (params : Params) :
    IsWoven d texts [.supply params, .text (Text.trim s)] := by
  rw [IsWoven, marks_supply_cons, marks_text_cons, marks_nil, List.append_nil, Text.toList_trim]
  exact .part h (Chars.trim_infix _)

lemma isWoven_expr {e : Expression} (h : e.sql ∈ texts) : IsWoven d texts (expr e) :=
  isWoven_verbatim (d := d) h

lemma isWoven_name {column : String} (h : column ∈ texts) :
    IsWoven d texts [.text (d.quoteColumn column)] := isWoven_text (woven_quoteColumn h)

lemma isWoven_table {table : String} (h : table ∈ texts) :
    IsWoven d texts [.text (d.quoteTable table)] := isWoven_text (woven_quoteTable h List.infix_rfl)

lemma isWoven_distinct {distinct : Distinct} (h : distinct.texts ⊆ texts) :
    IsWoven d texts (Fragment.distinct d distinct) := by
  cases distinct with
  | no => exact isWoven_nil
  | all => exact isWoven_word (by decide)
  | on columns =>
    simp only [Fragment.distinct]
    split
    · apply isWoven_text
      rw [String.append_assoc, String.toList_append, charMarks_append]
      exact (woven_append_word (woven_nameList h) (by decide)).word_append (by decide)
    · exact isWoven_nil

lemma isWoven_orderBy {items : List OrderItem} (h : items.flatMap OrderItem.texts ⊆ texts) :
    IsWoven d texts (orderBy d items) := by
  have hitem : ∀ f ∈ items.map (orderItem d), IsWoven d texts f := by
    intro f hf
    obtain ⟨item, hitem, rfl⟩ := List.mem_map.mp hf
    have htexts : item.texts ⊆ texts :=
      fun t ht => h (List.mem_flatMap.mpr ⟨item, hitem, ht⟩)
    cases item with
    | column name direction =>
      rw [orderItem, String.append_assoc]
      exact isWoven_text_word (woven_quoteColumn (htexts List.mem_cons_self))
        (by cases direction <;> decide)
    | expr e => exact isWoven_expr (htexts List.mem_cons_self)
    | random => exact isWoven_word (by cases d <;> decide)
  unfold orderBy
  split
  · exact isWoven_nil
  · exact (IsWoven.join (by decide) hitem).text_cons (by decide)

lemma isWoven_limitClause (limit offset : Option Nat) :
    IsWoven d texts [.text (d.limitClause limit offset)] := by
  have hunbounded : ∀ all ∈ d.unboundedLimit?, all.toList.all isInert = true := by
    cases d <;> decide
  have happend {s t : String} (hs : s.toList.all isInert = true)
      (ht : t.toList.all isInert = true) : (s ++ t).toList.all isInert = true := by
    rw [String.toList_append, List.all_append, hs, ht]
    rfl
  have hnumber (n : Nat) {s : String} (hs : s.toList.all isInert = true) :
      (s ++ toString n).toList.all isInert = true := happend hs (all_isInert_toString n)
  apply isWoven_word
  unfold Dialect.limitClause
  dsimp only
  split
  · split
    · exact happend (hnumber _ (happend (hnumber _ (by decide)) (by decide))) (by decide)
    · exact happend (hnumber _ (by decide)) (by decide)
    · rfl
  · split
    · exact hnumber _ (happend (hnumber _ (by decide)) (by decide))
    · exact hnumber _ (by decide)
    · split
      · rename_i all hall
        exact hnumber _ (happend (happend (by decide) (hunbounded all hall)) (by decide))
      · exact hnumber _ (by decide)
    · rfl

lemma isWoven_selectModifier {option : Option String} (h : option.toList ⊆ texts) :
    IsWoven d texts (selectModifier option) := by
  cases option with
  | none => exact isWoven_nil
  | some option =>
    unfold selectModifier
    dsimp only
    split
    · exact isWoven_nil
    · have hoption : IsWoven d texts [.text option] := isWoven_verbatim (h List.mem_cons_self)
      rw [IsWoven, marks_text_cons, String.toList_append, charMarks_append, List.append_assoc]
      exact hoption.word_append (by decide)

lemma isWoven_selectList {items : List SelectItem}
    (h : ∀ f ∈ selectFragments d items, IsWoven d texts f) :
    IsWoven d texts (selectList d items) := by
  unfold selectList
  split
  · exact isWoven_word (by decide)
  · exact (IsWoven.join (by decide) h).text_cons (by decide)

/-- What stands after SELECT starts with a blank, if it has a text. -/
lemma startsLoose_selectHead (distinct : Distinct) (option : Option String)
    (items : List SelectItem) : startsLoose (marks (Fragment.distinct d distinct)) = true ∧
      startsLoose (marks (selectModifier option)) = true ∧
      startsLoose (marks (selectList d items)) = true := by
  have hword (s t : String) (f : Fragment) (hs : startsLoose (charMarks s.toList) = true)
      (hne : s.toList ≠ []) : startsLoose (marks (.text (s ++ t) :: f)) = true := by
    rw [marks_text_cons, String.toList_append, charMarks_append, List.append_assoc]
    exact startsLoose_word_append hs hne
  refine ⟨?_, ?_, ?_⟩
  · cases distinct with
    | no => rfl
    | all => exact startsLoose_word_append (by decide) (by decide)
    | on columns =>
      simp only [Fragment.distinct]
      split
      · rw [String.append_assoc]
        exact hword _ _ _ (by decide) (by decide)
      · rfl
  · cases option with
    | none => rfl
    | some option =>
      unfold selectModifier
      dsimp only
      split
      · rfl
      · exact hword " " option [] (by decide) (by decide)
  · unfold selectList
    split
    · exact startsLoose_word_append (by decide) (by decide)
    · exact startsLoose_word_append (by decide) (by decide)

lemma isWoven_selectHead {distinct : Distinct} {option : Option String} {items : List SelectItem}
    (hdistinct : distinct.texts ⊆ texts) (hoption : option.toList ⊆ texts)
    (hitems : ∀ f ∈ selectFragments d items, IsWoven d texts f) :
    IsWoven d texts (.text "SELECT" :: Fragment.distinct d distinct ++ selectModifier option ++
      selectList d items) := by
  obtain ⟨hdistinct', hoption', hitems'⟩ := startsLoose_selectHead (d := d) distinct option items
  have hselect : IsWoven d texts [.text "SELECT"] := isWoven_word (by decide)
  have hfirst : IsWoven d texts (.text "SELECT" :: Fragment.distinct d distinct) :=
    Woven.glue hselect (isWoven_distinct hdistinct) (.inr hdistinct')
  rw [IsWoven, marks_append, marks_append]
  exact (Woven.glue hfirst (isWoven_selectModifier hoption) (.inr hoption')).glue
    (isWoven_selectList hitems) (.inr hitems')

/-- A source of rows with its alias. -/
lemma isWoven_tableRef {source : TableSource} {label : Option String}
    (h : IsWoven d texts (source.fragment d)) (hlabel : label.toList ⊆ texts) :
    IsWoven d texts (TableRef.fragment d ⟨source, label⟩) := by
  cases label with
  | none => exact h
  | some label =>
    rw [TableRef.fragment, IsWoven, marks_append, marks_text_cons, marks_nil, List.append_nil,
      String.toList_append, charMarks_append]
    exact Woven.between h (by decide) (woven_quoteTable (hlabel List.mem_cons_self) List.infix_rfl)

/-- The keyword of a join with what is joined. -/
lemma isWoven_joined {kind : JoinKind} {f : Fragment} (hkind : kind.texts ⊆ texts)
    (hf : IsWoven d texts f) : IsWoven d texts (.text (kind.sql ++ " ") :: f) := by
  have hkeyword : Woven d texts (charMarks kind.sql.toList) := by
    cases kind with
    | custom keyword => exact .part (hkind List.mem_cons_self) List.infix_rfl
    | _ => exact .word (by decide)
  exact isWoven_operand hkeyword (by decide) hf

end Fragment

/-! ### Conditions and queries -/

/-- The parts of a query, put together. -/
lemma Query.isWoven_of_clauses {q : Query} (hclauses : ∀ f ∈ q.clauses d, IsWoven d texts f)
    (hunions : ∀ f ∈ unionFragments d q.unions, IsWoven d texts f) :
    IsWoven d texts (q.fragment d) := by
  have hsimple : IsWoven d texts (q.simple d) := isWoven_joinNonBlank (by decide) hclauses
  have hwhole : IsWoven d texts (q.withUnions d) := by
    unfold Query.withUnions
    split
    · exact hsimple
    · refine IsWoven.between ?_ (by decide) (.join (by decide) hunions)
      split
      · exact hsimple.bracket
      · exact hsimple
  rw [Query.fragment_eq]
  exact hwhole.trimEnd

mutual
/-- A condition is woven from its texts. -/
lemma Condition.isWoven (c : Condition) (h : c.texts ⊆ texts) :
    IsWoven d texts (c.fragment d) := by
  match c with
  | .hash pairs =>
    rw [Condition.fragment]
    exact isWoven_joinNonBlank (by decide) (isWoven_hashFragments pairs h)
  | .and items | .or items =>
    rw [Condition.fragment]
    exact isWoven_group (isWoven_memberFragments items h)
  | .not item =>
    rw [Condition.fragment]
    split
    · exact item.isWoven h
    · exact (item.isWoven h).bracket.text_cons (by decide)
  | .between column low high negated =>
    rw [Condition.fragment]
    exact isWoven_operand (woven_quoteColumn (h List.mem_cons_self))
      (by cases negated <;> decide)
      ((isWoven_slot column low).between (by decide) (isWoven_slot column high))
  | .within columns (.query q) negated =>
    obtain ⟨hcolumns, hq⟩ := List.append_subset.mp h
    rw [Condition.fragment]
    split
    · exact isWoven_nil
    · exact isWoven_operand (woven_columnTuple hcolumns) (by cases negated <;> decide)
        (q.isWoven hq).bracket
  | .within [] (.list values) negated => exact isWoven_nil
  | .within [column] (.list values) negated =>
    rw [Condition.fragment]
    exact isWoven_inList (h List.mem_cons_self) values negated
  | .within (_ :: _ :: _) (.list values) negated => exact isWoven_nil
  | .within columns (.rows rows) negated =>
    rw [Condition.fragment]
    split
    · exact isWoven_nil
    · exact isWoven_inRows h rows negated
  | .like op column values rawPattern =>
    rw [Condition.fragment]
    exact isWoven_like (h List.mem_cons_self) op values rawPattern
  | .exist q negated =>
    rw [Condition.fragment]
    exact (q.isWoven h).bracket.text_cons (by cases negated <;> decide)
  | .compare column op (.value v) =>
    have hq : Woven d texts (charMarks (d.quoteColumn column).toList) :=
      woven_quoteColumn (h List.mem_cons_self)
    rw [Condition.fragment]
    simp only [String.append_assoc]
    split
    · exact isWoven_text_word hq (by cases op <;> decide)
    · exact isWoven_operand hq (by cases op <;> decide) (isWoven_slot column v)
  | .compare column op (.query q) =>
    obtain ⟨hcolumn, hq⟩ := List.cons_subset.mp h
    rw [Condition.fragment, String.append_assoc, String.append_assoc]
    exact isWoven_operand (woven_quoteColumn hcolumn) (by cases op <;> decide)
      (q.isWoven hq).bracket
  | .compare column op (.expr e) =>
    obtain ⟨hcolumn, he⟩ := List.cons_subset.mp h
    rw [Condition.fragment, String.append_assoc, String.append_assoc]
    exact isWoven_operand (woven_quoteColumn hcolumn) (by cases op <;> decide)
      (isWoven_expr (he List.mem_cons_self))
  | .compare column op (.list _) => exact isWoven_nil
  | .raw sql params =>
    rw [Condition.fragment]
    exact isWoven_trimmed (h List.mem_cons_self) _
  | .expr e =>
    rw [Condition.fragment]
    exact isWoven_trimmed (h List.mem_cons_self) _
  | .lookup field lookup (.query q) =>
    obtain ⟨hfield, hq⟩ := List.cons_subset.mp h
    by_cases hl : lookup = .within
    · subst hl
      rw [Condition.fragment]
      exact isWoven_operand (woven_quoteColumn hfield) (by decide) (q.isWoven hq).bracket
    · rw [Condition.fragment_lookup fun _ h' => absurd h' hl]
      exact isWoven_lookup (woven_quoteColumn hfield) _
  | .lookup field lookup (.value _) | .lookup field lookup (.list _)
  | .lookup field lookup (.expr _) =>
    rw [Condition.fragment_lookup (by simp)]
    exact isWoven_lookup (woven_quoteColumn (h List.mem_cons_self)) _

lemma isWoven_hashFragments (pairs : List (String × Operand)) (h : textsOfPairs pairs ⊆ texts) :
    ∀ f ∈ hashFragments d pairs, IsWoven d texts f := by
  match pairs with
  | [] => simp [hashFragments]
  | (column, operand) :: pairs =>
    rw [textsOfPairs, List.cons_subset, List.append_subset] at h
    obtain ⟨hcolumn, hoperand, hpairs⟩ := h
    have hrest := isWoven_hashFragments pairs hpairs
    have hq : Woven d texts (charMarks (d.quoteColumn column).toList) := woven_quoteColumn hcolumn
    match operand with
    | .value v =>
      rw [hashFragments, List.forall_mem_cons]
      refine ⟨?_, hrest⟩
      split
      · exact isWoven_text_word hq (by decide)
      · exact isWoven_operand hq (by decide) (isWoven_slot column v)
    | .list values =>
      rw [hashFragments, List.forall_mem_cons]
      exact ⟨isWoven_inList hcolumn values false, hrest⟩
    | .query q =>
      rw [hashFragments, List.forall_mem_cons]
      exact ⟨isWoven_operand hq (by decide) (q.isWoven hoperand).bracket, hrest⟩
    | .expr e =>
      rw [hashFragments, List.forall_mem_cons]
      exact ⟨isWoven_operand hq (by decide) (isWoven_expr (hoperand List.mem_cons_self)), hrest⟩

lemma isWoven_memberFragments {conjunction : Bool} (items : List Condition)
    (h : textsOfConditions items ⊆ texts) :
    ∀ m ∈ memberFragments d conjunction items, IsWoven d texts m.2 := by
  match items with
  | [] => simp [memberFragments]
  | item :: items =>
    obtain ⟨hitem, hitems⟩ := List.append_subset.mp h
    rw [memberFragments, List.forall_mem_cons]
    exact ⟨item.isWoven hitem, isWoven_memberFragments items hitems⟩

lemma isWoven_filterFragment (filter : Option Condition) (h : textsOfFilter filter ⊆ texts) :
    IsWoven d texts (filterFragment d filter) := by
  match filter with
  | none => exact isWoven_nil
  | some c => exact c.isWoven h

lemma Selectable.isWoven (item : Selectable) (h : item.texts ⊆ texts) :
    IsWoven d texts (item.fragment d) := by
  match item with
  | .column name => exact isWoven_name (h List.mem_cons_self)
  | .expr e => exact isWoven_expr (h List.mem_cons_self)
  | .query q => exact (q.isWoven h).bracket

lemma isWoven_groupingFragments (items : List Selectable) (h : textsOfGrouping items ⊆ texts) :
    ∀ f ∈ groupingFragments d items, IsWoven d texts f := by
  match items with
  | [] => simp [groupingFragments]
  | item :: items =>
    obtain ⟨hitem, hitems⟩ := List.append_subset.mp h
    rw [groupingFragments, List.forall_mem_cons]
    exact ⟨item.isWoven hitem, isWoven_groupingFragments items hitems⟩

lemma isWoven_selectFragments (items : List SelectItem) (h : textsOfSelect items ⊆ texts) :
    ∀ f ∈ selectFragments d items, IsWoven d texts f := by
  match items with
  | [] => simp [selectFragments]
  | ⟨item, label⟩ :: items =>
    rw [textsOfSelect, List.append_subset, List.append_subset] at h
    obtain ⟨⟨hitem, hlabel⟩, hitems⟩ := h
    have hrest := isWoven_selectFragments items hitems
    match label with
    | none =>
      rw [selectFragments, List.forall_mem_cons]
      exact ⟨item.isWoven hitem, hrest⟩
    | some label =>
      rw [selectFragments, List.forall_mem_cons]
      refine ⟨?_, hrest⟩
      rw [IsWoven, marks_append, marks_text_cons, marks_nil, List.append_nil,
        String.toList_append, charMarks_append]
      exact Woven.between (item.isWoven hitem) (by decide)
        (woven_quoteColumn (hlabel List.mem_cons_self))

lemma TableSource.isWoven (source : TableSource) (h : source.texts ⊆ texts) :
    IsWoven d texts (source.fragment d) := by
  match source with
  | .table name => exact isWoven_table (h List.mem_cons_self)
  | .query q => exact (q.isWoven h).bracket
  | .expr e => exact isWoven_expr (h List.mem_cons_self)

lemma isWoven_tableFragments (tables : List TableRef) (h : textsOfTables tables ⊆ texts) :
    ∀ f ∈ tableFragments d tables, IsWoven d texts f := by
  match tables with
  | [] => simp [tableFragments]
  | ⟨source, label⟩ :: tables =>
    rw [textsOfTables, List.append_subset, List.append_subset] at h
    obtain ⟨⟨hsource, hlabel⟩, htables⟩ := h
    rw [tableFragments, List.forall_mem_cons]
    exact ⟨isWoven_tableRef (source.isWoven hsource) hlabel, isWoven_tableFragments tables htables⟩

lemma isWoven_joinFragments (joins : List Join) (h : textsOfJoins joins ⊆ texts) :
    ∀ f ∈ joinFragments d joins, IsWoven d texts f := by
  match joins with
  | [] => simp [joinFragments]
  | ⟨kind, ⟨source, label⟩, on⟩ :: joins =>
    simp only [textsOfJoins, List.append_subset] at h
    obtain ⟨⟨⟨hkind, hsource, hlabel⟩, hon⟩, hjoins⟩ := h
    rw [joinFragments_cons, List.forall_mem_cons]
    refine ⟨?_, isWoven_joinFragments joins hjoins⟩
    have hcheck : marks (checkJoin d kind) = [] := by
      unfold checkJoin
      split <;> rfl
    have htable : IsWoven d texts (TableRef.fragment d ⟨source, label⟩) :=
      isWoven_tableRef (source.isWoven hsource) hlabel
    have hcondition : IsWoven d texts (filterFragment d on) := isWoven_filterFragment on hon
    rw [IsWoven, marks_append, hcheck, List.nil_append]
    apply isWoven_joined hkind
    unfold clause
    split
    · rename_i hblank
      rw [IsWoven, marks_append, marks_of_isBlank hblank, List.append_nil]
      exact htable
    · exact htable.between (by decide) hcondition

lemma isWoven_unionFragments (unions : List UnionMember) (h : textsOfUnions unions ⊆ texts) :
    ∀ f ∈ unionFragments d unions, IsWoven d texts f := by
  match unions with
  | [] => simp [unionFragments]
  | ⟨q, all⟩ :: unions =>
    obtain ⟨hq, hunions⟩ := List.append_subset.mp h
    rw [unionFragments, List.forall_mem_cons]
    refine ⟨?_, isWoven_unionFragments unions hunions⟩
    refine IsWoven.text_cons (by cases all <;> decide) ?_
    split
    · exact (q.isWoven hq).bracket
    · exact q.isWoven hq

/-- A query is woven from its texts. -/
lemma Query.isWoven (q : Query) (h : q.texts ⊆ texts) : IsWoven d texts (q.fragment d) := by
  match q with
  | ⟨select, option, distinct, tables, joins, filter, groupBy, having, orderBy, unions, limit,
      offset, _, _⟩ =>
    simp only [Query.texts, List.append_subset] at h
    obtain ⟨⟨⟨⟨⟨⟨⟨⟨⟨hoption, hdistinct⟩, hselect⟩, htables⟩, hjoins⟩, hfilter⟩, hgroupBy⟩,
      hhaving⟩, horderBy⟩, hunions⟩ := h
    refine Query.isWoven_of_clauses ?_ (isWoven_unionFragments unions hunions)
    simp only [Query.clauses, List.forall_mem_cons, List.not_mem_nil, false_implies, implies_true,
      and_true]
    exact ⟨isWoven_selectHead hdistinct hoption (isWoven_selectFragments select hselect),
      isWoven_listClause (by decide) (isWoven_tableFragments tables htables),
      .join (by decide) (isWoven_joinFragments joins hjoins),
      isWoven_clause (by decide) (isWoven_filterFragment filter hfilter),
      isWoven_listClause (by decide) (isWoven_groupingFragments groupBy hgroupBy),
      isWoven_clause (by decide) (isWoven_filterFragment having hhaving),
      isWoven_orderBy horderBy, isWoven_limitClause limit offset⟩
end

/-! ### Statements -/

namespace Fragment

lemma isWoven_assigned {schema : Option SchemaRegistry} {table column : String}
    {operand : Operand} (h : operand.texts ⊆ texts) :
    IsWoven d texts (assigned d schema table column operand) := by
  cases operand with
  | value v => exact isWoven_slot column _
  | expr e => exact isWoven_expr (h List.mem_cons_self)
  | query q => exact (q.isWoven h).bracket
  | list vs => exact isWoven_nil

/-- The texts of a hash have its columns and those of its operands. -/
lemma texts_of_mem_pairs {column : String} {operand : Operand} {pairs : List (String × Operand)}
    (h : (column, operand) ∈ pairs) :
    column ∈ textsOfPairs pairs ∧ operand.texts ⊆ textsOfPairs pairs := by
  induction pairs with
  | nil => simp at h
  | cons pair pairs ih =>
    obtain ⟨column', operand'⟩ := pair
    rw [textsOfPairs]
    rcases List.mem_cons.mp h with h | h
    · obtain ⟨rfl, rfl⟩ := Prod.mk.inj h
      exact ⟨List.mem_cons_self,
        List.Subset.trans (List.subset_append_left _ _) (List.subset_cons_self _ _)⟩
    · obtain ⟨hcolumn, hoperand⟩ := ih h
      have hpairs : textsOfPairs pairs ⊆ column' :: (operand'.texts ++ textsOfPairs pairs) :=
        List.Subset.trans (List.subset_append_right _ _) (List.subset_cons_self _ _)
      exact ⟨hpairs hcolumn, List.Subset.trans hoperand hpairs⟩

/-- The start of a statement, up to the name of its table. -/
lemma woven_upToTable {keyword table : String} (hk : isOpening keyword.toList = true)
    (htable : table ∈ texts) :
    Woven d texts (charMarks (keyword ++ d.quoteTable table).toList) := by
  rw [String.toList_append, charMarks_append]
  exact (woven_quoteTable htable List.infix_rfl).word_append hk

/-- The start of a statement that inserts into some columns. -/
lemma woven_insertInto {table names : String} (htable : table ∈ texts)
    (hnames : Woven d texts (charMarks names.toList)) :
    Woven d texts (charMarks ("INSERT INTO " ++ d.quoteTable table ++ " " ++ names).toList) := by
  have hinto : Woven d texts (charMarks ("INSERT INTO " ++ d.quoteTable table).toList) :=
    woven_upToTable (by decide) htable
  rw [String.toList_append, charMarks_append, String.toList_append, charMarks_append,
    List.append_assoc]
  exact hinto.between (by decide) hnames

lemma isWoven_batchRows (schema : Option SchemaRegistry) (table : String)
    (columns : List String) (rows : List (List Value)) :
    IsWoven d texts (batchRows schema table columns rows) := by
  refine .join (by decide) ?_
  intro f hf
  obtain ⟨row, -, rfl⟩ := List.mem_map.mp hf
  exact isWoven_zip_slots row (castFor schema table)

end Fragment

/-- A statement is woven from its texts. -/
lemma Statement.isWoven {schema : Option SchemaRegistry} (s : Statement) (h : s.texts ⊆ texts) :
    IsWoven d texts (s.fragment d schema) := by
  cases s with
  | select q => exact q.isWoven h
  | insert table columns =>
    obtain ⟨htable, hcolumns⟩ := List.cons_subset.mp h
    simp only [Statement.fragment]
    split
    · apply isWoven_text
      have hinto : Woven d texts (charMarks ("INSERT INTO " ++ d.quoteTable table).toList) :=
        woven_upToTable (by decide) htable
      cases d <;> exact woven_append_word hinto (by decide)
    · have hnames : Woven d texts (charMarks (nameList d (columns.map Prod.fst)).toList) := by
        refine woven_names ?_
        intro column hcolumn
        obtain ⟨⟨column, operand⟩, hpair, rfl⟩ := List.mem_map.mp hcolumn
        exact hcolumns (texts_of_mem_pairs hpair).1
      refine isWoven_operand (woven_insertInto htable hnames) (by decide) ?_
      refine (IsWoven.join (by decide) ?_).bracket
      intro f hf
      obtain ⟨⟨column, operand⟩, hpair, rfl⟩ := List.mem_map.mp hf
      exact isWoven_assigned (List.Subset.trans (texts_of_mem_pairs hpair).2 hcolumns)
  | insertFrom table columns q =>
    rw [Statement.texts, List.cons_subset, List.append_subset] at h
    obtain ⟨htable, hcolumns, hq⟩ := h
    simp only [Statement.fragment]
    split
    · rw [String.append_empty]
      exact isWoven_operand (woven_upToTable (by decide) htable) (by decide) (q.isWoven hq)
    · rw [← String.append_assoc]
      exact isWoven_operand (woven_insertInto htable (woven_names hcolumns)) (by decide)
        (q.isWoven hq)
  | batchInsert table columns rows =>
    obtain ⟨htable, hcolumns⟩ := List.cons_subset.mp h
    simp only [Statement.fragment]
    split_ifs
    · exact isWoven_nil
    · exact isWoven_nil
    · split
      · exact isWoven_nil
      · exact isWoven_operand (woven_insertInto htable (woven_names hcolumns)) (by decide)
          (isWoven_batchRows schema table columns rows)
  | update table columns filter =>
    rw [Statement.texts, List.cons_subset, List.append_subset] at h
    obtain ⟨htable, hcolumns, hfilter⟩ := h
    simp only [Statement.fragment]
    split
    · exact isWoven_nil
    · refine isWoven_operand (woven_upToTable (by decide) htable) (by decide) ?_
      refine IsWoven.append_whereClause (.join (by decide) ?_)
        (isWoven_filterFragment filter hfilter)
      intro f hf
      obtain ⟨⟨column, operand⟩, hpair, rfl⟩ := List.mem_map.mp hf
      obtain ⟨hcolumn, hoperand⟩ := texts_of_mem_pairs hpair
      exact isWoven_operand (woven_quoteColumn (hcolumns hcolumn)) (by decide)
        (isWoven_assigned (List.Subset.trans hoperand hcolumns))
  | delete table filter =>
    obtain ⟨htable, hfilter⟩ := List.cons_subset.mp h
    have hfrom : IsWoven d texts [.text ("DELETE FROM " ++ d.quoteTable table)] :=
      isWoven_text (woven_upToTable (by decide) htable)
    exact hfrom.append_whereClause (isWoven_filterFragment filter hfilter)
  | truncateTable table =>
    apply isWoven_text
    cases d <;> exact woven_upToTable (by decide) (h List.mem_cons_self)
  | dropTable table =>
    exact isWoven_text (woven_upToTable (by decide) (h List.mem_cons_self))

/-- A draft is woven from its texts. -/
lemma Draft.isWoven {schema : Option SchemaRegistry} (s : Draft) (h : s.texts ⊆ texts) :
    IsWoven d texts (s.fragment d schema) := by
  cases s with
  | statement s => exact s.isWoven h
  | condition c => exact c.isWoven h

end SqlCompose
