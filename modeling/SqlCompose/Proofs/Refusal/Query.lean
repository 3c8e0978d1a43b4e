import Mathlib
import SqlCompose.Proofs.Refusal.Part
import SqlCompose.Proofs.Draft

/-!
# Queries that are written

A fragment refuses something exactly if one of the parts of its description is refused, so a query
is written exactly if none of its parts is refused, wherever in it they stand.
-/

namespace SqlCompose

variable {d : Dialect}

namespace Fragment

/-! ### Predicates on values -/

@[simp] lemma error?_inList (d : Dialect) (column : String) (values : List Value)
    (negated : Bool) : error? (inList d column values negated) = none := by
  have hslots (vs : List Value) :
      error? (join ", " (vs.map fun v => [Piece.slot column v])) = none := by simp
  unfold inList ofEmptyList
  dsimp only
  split <;> split_ifs <;> simp [hslots]

@[simp] lemma error?_equalsRow (d : Dialect) (columns : List String) (row : List Value) :
    error? (equalsRow d columns row) = none := by
  rw [equalsRow, error?_join]
  intro f hf
  obtain ⟨⟨column, v⟩, -, rfl⟩ := List.mem_map.mp hf
  dsimp only
  split <;> rfl

/-- Rows are refused for their width and for nothing else. -/
lemma error?_inRows {columns : List String} {rows : List (List Value)} {negated : Bool} :
    error? (inRows d columns rows negated) = none ↔
      ∀ row ∈ rows, row.length = columns.length := by
  have halternatives : ∀ f ∈ rows.map (equalsRow d columns), error? f = none := by
    intro f hf
    obtain ⟨row, -, rfl⟩ := List.mem_map.mp hf
    exact error?_equalsRow d columns row
  have hvalues : error? (inRowValues d columns rows negated) = none := by
    simp only [inRowValues, error?_text_cons, error?_bracket, error?_join, List.mem_map,
      Prod.exists, forall_exists_index, and_imp, forall_apply_eq_imp_iff₂]
    rintro row - f column v - rfl
    rfl
  have hexpanded : error? (inRowsExpanded d columns rows negated) = none := by
    simp only [inRowsExpanded]
    split
    · rename_i row hrow
      have herror := halternatives row (by simp [hrow])
      split
      · simpa using herror
      · exact herror
    · split <;> simp
  unfold inRows
  cases hfind : rows.find? fun row => row.length != columns.length with
  | some row =>
    have hmem := List.mem_of_find?_eq_some hfind
    have hwidth := List.find?_some hfind
    simp only [error?_refusal_cons, reduceCtorEq, false_iff, not_forall]
    exact ⟨row, hmem, by simpa using hwidth⟩
  | none =>
    have hwidths : ∀ row ∈ rows, row.length = columns.length := by simpa using hfind
    refine iff_of_true ?_ hwidths
    dsimp only
    split_ifs
    · cases negated <;> rfl
    · exact hvalues
    · exact hexpanded

/-- A pattern that is null is refused, and nothing else is. -/
lemma error?_likeValue {op : LikeOp} {column : String} {rawPattern : Bool} {v : Value} :
    error? (likeValue d op column rawPattern v) = none ↔ v ≠ .null := by
  unfold likeValue
  cases v <;> cases rawPattern <;> simp [Value.isNull]

/-- A pattern is refused for being null and for nothing else. -/
lemma error?_like {op : LikeOp} {column : String} {values : List Value} {rawPattern : Bool} :
    error? (like d op column values rawPattern) = none ↔ .null ∉ values := by
  have hvalues : (∀ f ∈ values.map (likeValue d op column rawPattern), error? f = none) ↔
      .null ∉ values := by
    simp only [List.forall_mem_map, error?_likeValue]
    exact ⟨fun h hmem => h _ hmem rfl, fun h v hv hnull => h (hnull ▸ hv)⟩
  rw [← hvalues, like]
  split
  · rename_i hnil
    rw [hnil]
    cases op <;> simp [ofEmptyList, LikeOp.isNegated]
  · rename_i one hone
    rw [hone]
    simp
  · rw [error?_bracket, error?_join]

/-! ### Lookups -/

/-- A lookup of a single value refuses every other operand. -/
lemma error?_ofScalar {lookup : Lookup} {operand : Operand} {predicate : Value → Fragment} :
    error? (ofScalar lookup operand predicate) = none ↔
      ∃ v, operand = .value v ∧ error? (predicate v) = none := by
  cases operand <;> simp [ofScalar, refuseLookup]

lemma error?_ofPattern {lookup : Lookup} {field : String} {pattern : Pattern} {ignoreCase : Bool}
    {operand : Operand} :
    error? (ofPattern d lookup field pattern ignoreCase operand) = none ↔
      ∃ v, operand = .value v ∧ v ≠ .null := by
  rw [ofPattern, error?_ofScalar]
  refine exists_congr fun v => and_congr_right fun _ => ?_
  cases v <;> cases d <;> cases ignoreCase <;>
    simp [Value.isNull, refuseLookup, likePattern]

/-- A part of a date is asked for by an integer, a week day by one from one to seven. -/
lemma error?_datePart {p : DatePart} {field : String} {v : Value} :
    error? (datePart d p field v) = none ↔
      ∃ n, v.asInt? = some n ∧ (p = .weekDay → 1 ≤ n ∧ n ≤ 7) := by
  unfold datePart
  cases v.asInt? with
  | none => simp [refuseLookup]
  | some n =>
    dsimp only
    split
    · rename_i h
      simp [refuseLookup, h]
    · rename_i h
      simpa using h

lemma error?_regex {field : String} {ignoreCase : Bool} {v : Value} :
    error? (regex d field ignoreCase v) = none ↔ d ≠ .mssql := by
  cases d <;> simp [regex]

/-- A null check takes what can be read as a boolean. -/
lemma error?_nullCheck {field : String} {v : Value} :
    error? (nullCheck field v) = none ↔ v.asBool? ≠ none := by
  unfold nullCheck
  split <;> rename_i h <;> simp [h, refuseLookup]

/-- A lookup rejects a single value for what the lookup is, or for what the value is. -/
lemma rejects_value_iff {lookup : Lookup} {v : Value} :
    lookup.Rejects d (.value v) ↔
      lookup = .search ∨ lookup = .range ∨ (lookup = .regex ∨ lookup = .iregex) ∧ d = .mssql ∨
        lookup.isPattern = true ∧ v = .null ∨ lookup = .isNull ∧ v.asBool? = none ∨
        ∃ p, lookup = .part p ∧ ∀ n, v.asInt? = some n → p = .weekDay ∧ ¬(1 ≤ n ∧ n ≤ 7) := by
  constructor
  · rintro (_ | ⟨-, hd⟩ | ⟨-, hd⟩ | ⟨-, hv⟩ | hpattern | hbounds | _ | hv | ⟨p, hv⟩ | ⟨hv, hn⟩)
    · exact .inl rfl
    · exact .inr (.inr (.inl ⟨.inl rfl, hd⟩))
    · exact .inr (.inr (.inl ⟨.inr rfl, hd⟩))
    · exact absurd rfl (hv v)
    · exact .inr (.inr (.inr (.inl ⟨hpattern, rfl⟩)))
    · exact .inr (.inl rfl)
    · exact .inr (.inr (.inr (.inr (.inl ⟨rfl, hv⟩))))
    · exact .inr (.inr (.inr (.inr (.inr ⟨p, rfl, by simp [hv]⟩))))
    · refine .inr (.inr (.inr (.inr (.inr ⟨_, rfl, fun m hm => ⟨rfl, ?_⟩⟩))))
      rw [Option.some.inj (hm.symm.trans hv)]
      exact hn
  · rintro (rfl | rfl | ⟨rfl | rfl, hd⟩ | ⟨hpattern, rfl⟩ | ⟨rfl, hv⟩ | ⟨p, rfl, hv⟩)
    · exact .search _
    · exact .bounds (by simp)
    · exact .regex _ hd
    · exact .iregex _ hd
    · exact .nullPattern hpattern
    · exact .notBoolean hv
    · cases hint : v.asInt? with
      | none => exact .notInteger p hint
      | some n =>
        obtain ⟨rfl, hn⟩ := hv n hint
        exact .weekDay hint hn

/-- A lookup that takes a single value is written with a value that it does not reject. -/
lemma error?_lookup_value {lookup : Lookup} {field : String} {v : Value} :
    error? (lookup.fragment d field (.value v)) = none ↔ ¬lookup.Rejects d (.value v) := by
  rw [rejects_value_iff]
  cases lookup with
  | exact => cases v <;> simp [Lookup.fragment, ofScalar, exactly, Value.isNull, Lookup.isPattern]
  | iexact =>
    cases v <;>
      simp [Lookup.fragment, ofScalar, exactlyIgnoringCase, Value.isNull, Lookup.isPattern]
  | gt | gte | lt | lte => simp [Lookup.fragment, ofScalar, comparison, Lookup.isPattern]
  | contains | icontains | startsWith | istartsWith | endsWith | iendsWith =>
    simp [Lookup.fragment, error?_ofPattern, Lookup.isPattern]
  | range => simp [Lookup.fragment, refuseLookup]
  | within => simp [Lookup.fragment, amongValues, Lookup.isPattern]
  | isNull => simp [Lookup.fragment, ofScalar, error?_nullCheck, Lookup.isPattern]
  | regex | iregex => simp [Lookup.fragment, ofScalar, error?_regex, Lookup.isPattern]
  | part p =>
    simp only [Lookup.fragment, ofScalar, error?_datePart, reduceCtorEq, false_and, false_or,
      or_self, Lookup.isPattern, Bool.false_eq_true, Lookup.part.injEq]
    cases v.asInt? with
    | none => simp
    | some n => simp
  | search => simp [Lookup.fragment]

/-- A lookup that takes a single value refuses any other operand. -/
lemma error?_lookup_ne_none {lookup : Lookup} {field : String} {operand : Operand}
    (hl : lookup.isScalar = true) (h : ∀ v, operand ≠ .value v) :
    error? (lookup.fragment d field operand) ≠ none := by
  cases operand with
  | value v => exact absurd rfl (h v)
  | list _ | query _ | expr _ =>
    cases lookup <;> simp [Lookup.isScalar] at hl <;>
      simp [Lookup.fragment, ofPattern, ofScalar, refuseLookup]

/-- A lookup is written with the operands that the dialect does not reject. -/
lemma error?_lookup {lookup : Lookup} {field : String} {operand : Operand}
    (h : ∀ q, lookup = .within → operand ≠ .query q) :
    error? (lookup.fragment d field operand) = none ↔ ¬lookup.Rejects d operand := by
  by_cases hoperand : ∃ v, operand = .value v
  · obtain ⟨v, rfl⟩ := hoperand
    exact error?_lookup_value
  push Not at hoperand
  by_cases hl : lookup.isScalar = true
  · exact iff_of_false (error?_lookup_ne_none hl hoperand) (not_not.mpr (.notScalar hl hoperand))
  match lookup, operand with
  | .search, operand =>
    exact iff_of_false (by simp [Lookup.fragment]) (not_not.mpr (.search operand))
  | .range, operand =>
    have hrange : error? (Lookup.fragment d .range field operand) = none ↔
        ∃ low high, operand = .list [low, high] := by
      simp only [Lookup.fragment]
      split
      · simp
      · rename_i hbounds
        simpa [refuseLookup] using hbounds
    rw [hrange]
    constructor
    · rintro ⟨low, high, rfl⟩ hrejects
      cases hrejects with
      | notScalar hscalar => exact hl hscalar
      | bounds hbounds => exact hbounds low high rfl
    · intro hnot
      by_contra hbounds
      push Not at hbounds
      exact hnot (.bounds hbounds)
  | .within, .value v => exact absurd rfl (hoperand v)
  | .within, .list values =>
    refine iff_of_true ?_ ?_
    · simp only [Lookup.fragment, amongValues]
      split <;> simp
    · intro hrejects
      cases hrejects with
      | notScalar hscalar => exact hl hscalar
  | .within, .query q => exact absurd rfl (h q rfl)
  | .within, .expr e =>
    exact iff_of_false (by simp [Lookup.fragment, refuseLookup]) (not_not.mpr (.memberOfExpr e))

end Fragment

open Fragment

/-- Only a membership looks for a field in a query. -/
lemma Lookup.rejects_query {lookup : Lookup} {q : Query} (h : lookup ≠ .within) :
    lookup.Rejects d (.query q) := by
  by_cases hl : lookup.isScalar = true
  · exact .notScalar hl (by simp)
  match lookup with
  | .search => exact .search _
  | .range => exact .bounds (by simp)
  | .within => exact absurd rfl h

/-! ### Parts that are taken -/

namespace Part

lemma isRefused_distinct_iff {x : Distinct} :
    (distinct x).IsRefused d ↔ error? (Fragment.distinct d x) ≠ none := by
  constructor
  · rintro ⟨columns, h⟩
    simp [Fragment.distinct, h]
  · intro h
    cases x with
    | no | all => exact absurd rfl h
    | on columns =>
      refine .distinctOn columns fun hd => h ?_
      simp [Fragment.distinct, hd]

lemma isRefused_join_iff {kind : JoinKind} :
    (join kind).IsRefused d ↔ error? (checkJoin d kind) ≠ none := by
  constructor
  · rintro (_ | h | h)
    · rcases h with rfl | rfl | rfl <;> simp [checkJoin]
    · subst h
      simp [checkJoin]
  · intro h
    unfold checkJoin at h
    split at h
    · exact .rightJoin rfl
    · exact .fullJoin (.inr (.inl rfl))
    · exact .fullJoin (.inl rfl)
    · exact .fullJoin (.inr (.inr rfl))
    · exact absurd rfl h

lemma isRefused_within_query_iff {columns : List String} {q : Query} {negated : Bool} :
    (condition (.within columns (.query q) negated)).IsRefused d ↔ columns = [] := by
  constructor
  · intro h
    cases h with
    | noColumn => rfl
  · rintro rfl
    exact .noColumn ..

lemma isRefused_within_list_iff {columns : List String} {values : List Value} {negated : Bool} :
    (condition (.within columns (.list values) negated)).IsRefused d ↔ columns.length ≠ 1 := by
  constructor
  · intro h
    cases h with
    | noColumn => simp
    | listOfTuples _ _ h => exact h
  · exact .listOfTuples values negated

/-- Rows that are looked for have to be as wide as the columns. -/
lemma isRefused_within_rows_iff {columns : List String} {rows : List (List Value)}
    {negated : Bool} :
    (condition (.within columns (.rows rows) negated)).IsRefused d ↔
      columns = [] ∨ ∃ row ∈ rows, row.length ≠ columns.length := by
  constructor
  · intro h
    cases h with
    | noColumn => exact .inl rfl
    | rowWidth _ hrow h => exact .inr ⟨_, hrow, h⟩
  · rintro (rfl | ⟨row, hrow, h⟩)
    · exact .noColumn ..
    · exact .rowWidth negated hrow h

lemma isRefused_like_iff {op : LikeOp} {column : String} {values : List Value}
    {rawPattern : Bool} :
    (condition (.like op column values rawPattern)).IsRefused d ↔ .null ∈ values := by
  constructor
  · intro h
    cases h with
    | likeNull _ _ _ h => exact h
  · exact .likeNull op column rawPattern

lemma isRefused_lookup_iff {field : String} {lookup : Lookup} {operand : Operand} :
    (condition (.lookup field lookup operand)).IsRefused d ↔ lookup.Rejects d operand := by
  constructor
  · intro h
    cases h with
    | lookup _ h => exact h
  · exact .lookup field

end Part

/-! ### Conditions and queries -/

/-- An alias is never refused. -/
lemma error?_tableRef {source : TableSource} {label : Option String} :
    error? (TableRef.fragment d ⟨source, label⟩) = none ↔ error? (source.fragment d) = none := by
  cases label <;> simp [TableRef.fragment]

lemma error?_selectModifier (option : Option String) : error? (selectModifier option) = none := by
  cases option with
  | none => rfl
  | some option =>
    rw [selectModifier]
    split <;> rfl

lemma error?_orderBy (items : List OrderItem) : error? (orderBy d items) = none := by
  have hitems : ∀ f ∈ items.map (orderItem d), error? f = none := by
    intro f hf
    obtain ⟨item, -, rfl⟩ := List.mem_map.mp hf
    cases item <;> rfl
  unfold orderBy
  split
  · rfl
  · rwa [error?_after, error?_join]

mutual
/-- A condition is written exactly if neither it nor a part inside it is refused. -/
lemma Condition.error?_fragment (c : Condition) :
    error? (c.fragment d) = none ↔
      ¬(Part.condition c).IsRefused d ∧ ∀ p ∈ c.inside, ¬p.IsRefused d := by
  match c with
  | .hash pairs =>
    rw [Condition.fragment, error?_joinNonBlank, error?_hashFragments pairs, Condition.inside]
    exact (and_iff_right nofun).symm
  | .and items =>
    rw [Condition.fragment, error?_group, error?_memberFragments items, Condition.inside]
    exact (and_iff_right nofun).symm
  | .or items =>
    rw [Condition.fragment, error?_group, error?_memberFragments items, Condition.inside]
    exact (and_iff_right nofun).symm
  | .not item =>
    have hitem : error? ((Condition.not item).fragment d) = none ↔
        error? (item.fragment d) = none := by
      rw [Condition.fragment]
      split <;> simp
    rw [hitem, item.error?_fragment, Condition.inside, List.forall_mem_cons]
    exact (and_iff_right nofun).symm
  | .between .. => simpa [Condition.fragment, Condition.inside] using nofun
  | .within columns (.query q) negated =>
    rw [Part.isRefused_within_query_iff, Condition.inside, ← q.error?_fragment, Condition.fragment]
    cases columns <;> simp
  | .within columns (.list values) negated =>
    rw [Part.isRefused_within_list_iff, Condition.inside]
    match columns with
    | [] => simp [Condition.fragment]
    | [column] => simp [Condition.fragment]
    | _ :: _ :: _ => simp [Condition.fragment]
  | .within columns (.rows rows) negated =>
    rw [Part.isRefused_within_rows_iff, Condition.inside, Condition.fragment]
    cases columns <;> simp [error?_inRows]
  | .like .. =>
    rw [Condition.fragment, error?_like, Part.isRefused_like_iff, Condition.inside]
    simp
  | .exist q negated =>
    rw [Condition.fragment, error?_text_cons, error?_bracket, q.error?_fragment, Condition.inside]
    exact (and_iff_right nofun).symm
  | .compare column op (.value v) =>
    rw [Condition.inside, Operand.parts]
    refine iff_of_true ?_ ⟨nofun, nofun⟩
    rw [Condition.fragment]
    cases v <;> simp [Value.isNull]
  | .compare column op (.query q) =>
    rw [Condition.fragment, error?_text_cons, error?_bracket, q.error?_fragment, Condition.inside,
      Operand.parts]
    exact (and_iff_right nofun).symm
  | .compare column op (.expr e) =>
    rw [Condition.inside, Operand.parts]
    exact iff_of_true (by simp [Condition.fragment]) ⟨nofun, nofun⟩
  | .compare column op (.list values) =>
    refine iff_of_false (by simp [Condition.fragment]) fun h => h.1 ?_
    exact .compareList column op values
  | .raw .. | .expr _ => simpa [Condition.fragment, Condition.inside] using nofun
  | .lookup field lookup (.query q) =>
    rw [Part.isRefused_lookup_iff, Condition.inside, Operand.parts]
    by_cases hl : lookup = .within
    · subst hl
      rw [Condition.fragment, error?_text_cons, error?_bracket, q.error?_fragment]
      exact (and_iff_right nofun).symm
    · have hrejects := Lookup.rejects_query (d := d) (q := q) hl
      rw [Condition.fragment_lookup fun _ h' => absurd h' hl,
        error?_lookup fun _ h' => absurd h' hl]
      simp [hrejects]
  | .lookup field lookup (.value _) | .lookup field lookup (.list _)
  | .lookup field lookup (.expr _) =>
    rw [Part.isRefused_lookup_iff, Condition.inside, Operand.parts,
      Condition.fragment_lookup (by simp), error?_lookup (by simp)]
    simp

lemma error?_hashFragments (pairs : List (String × Operand)) :
    (∀ f ∈ hashFragments d pairs, error? f = none) ↔
      ∀ p ∈ partsOfPairs pairs, ¬p.IsRefused d := by
  match pairs with
  | [] => simp [hashFragments, partsOfPairs]
  | (column, .value v) :: pairs =>
    rw [hashFragments, List.forall_mem_cons, error?_hashFragments pairs, partsOfPairs,
      Operand.parts, List.nil_append]
    refine and_iff_right ?_
    cases v <;> simp [Value.isNull]
  | (column, .list values) :: pairs =>
    rw [hashFragments, List.forall_mem_cons, error?_hashFragments pairs, partsOfPairs,
      Operand.parts, List.nil_append]
    exact and_iff_right (error?_inList ..)
  | (column, .query q) :: pairs =>
    rw [hashFragments, List.forall_mem_cons, error?_hashFragments pairs, partsOfPairs,
      Operand.parts, List.forall_mem_append, error?_text_cons, error?_bracket, q.error?_fragment]
  | (column, .expr e) :: pairs =>
    rw [hashFragments, List.forall_mem_cons, error?_hashFragments pairs, partsOfPairs,
      Operand.parts, List.nil_append]
    exact and_iff_right rfl

lemma error?_memberFragments {conjunction : Bool} (items : List Condition) :
    (∀ m ∈ memberFragments d conjunction items, error? m.2 = none) ↔
      ∀ p ∈ partsOfConditions items, ¬p.IsRefused d := by
  match items with
  | [] => simp [memberFragments, partsOfConditions]
  | item :: items =>
    rw [memberFragments, List.forall_mem_cons, item.error?_fragment,
      error?_memberFragments items, partsOfConditions, List.forall_mem_cons,
      List.forall_mem_append, and_assoc]

lemma error?_filterFragment (filter : Option Condition) :
    error? (filterFragment d filter) = none ↔ ∀ p ∈ partsOfFilter filter, ¬p.IsRefused d := by
  match filter with
  | none => simp [filterFragment, partsOfFilter]
  | some c => rw [filterFragment, c.error?_fragment, partsOfFilter, List.forall_mem_cons]

lemma Selectable.error?_fragment (item : Selectable) :
    error? (item.fragment d) = none ↔ ∀ p ∈ item.parts, ¬p.IsRefused d := by
  match item with
  | .column _ | .expr _ => simp [Selectable.fragment, Selectable.parts]
  | .query q => rw [Selectable.fragment, error?_bracket, q.error?_fragment, Selectable.parts]

lemma error?_groupingFragments (items : List Selectable) :
    (∀ f ∈ groupingFragments d items, error? f = none) ↔
      ∀ p ∈ partsOfGrouping items, ¬p.IsRefused d := by
  match items with
  | [] => simp [groupingFragments, partsOfGrouping]
  | item :: items =>
    rw [groupingFragments, List.forall_mem_cons, item.error?_fragment,
      error?_groupingFragments items, partsOfGrouping, List.forall_mem_append]

lemma error?_selectFragments (items : List SelectItem) :
    (∀ f ∈ selectFragments d items, error? f = none) ↔
      ∀ p ∈ partsOfSelect items, ¬p.IsRefused d := by
  match items with
  | [] => simp [selectFragments, partsOfSelect]
  | ⟨item, none⟩ :: items =>
    rw [selectFragments, List.forall_mem_cons, item.error?_fragment,
      error?_selectFragments items, partsOfSelect, List.forall_mem_append]
  | ⟨item, some label⟩ :: items =>
    rw [selectFragments, List.forall_mem_cons, error?_append, Option.or_eq_none_iff,
      item.error?_fragment, error?_selectFragments items, partsOfSelect, List.forall_mem_append]
    simp

lemma TableSource.error?_fragment (source : TableSource) :
    error? (source.fragment d) = none ↔ ∀ p ∈ source.parts, ¬p.IsRefused d := by
  match source with
  | .table _ | .expr _ => simp [TableSource.fragment, TableSource.parts]
  | .query q => rw [TableSource.fragment, error?_bracket, q.error?_fragment, TableSource.parts]

lemma error?_tableFragments (tables : List TableRef) :
    (∀ f ∈ tableFragments d tables, error? f = none) ↔
      ∀ p ∈ partsOfTables tables, ¬p.IsRefused d := by
  match tables with
  | [] => simp [tableFragments, partsOfTables]
  | ⟨source, label⟩ :: tables =>
    rw [tableFragments, List.forall_mem_cons, error?_tableRef, source.error?_fragment,
      error?_tableFragments tables, partsOfTables, List.forall_mem_append]

lemma error?_joinFragments (joins : List Join) :
    (∀ f ∈ joinFragments d joins, error? f = none) ↔
      ∀ p ∈ partsOfJoins joins, ¬p.IsRefused d := by
  match joins with
  | [] => simp [joinFragments, partsOfJoins]
  | ⟨kind, ⟨source, label⟩, on⟩ :: joins =>
    rw [joinFragments_cons, List.forall_mem_cons, error?_joinFragments joins, partsOfJoins,
      List.forall_mem_cons, List.forall_mem_append, List.forall_mem_append,
      Part.isRefused_join_iff, not_not, ← error?_filterFragment on, ← source.error?_fragment]
    simp only [error?_append, Option.or_eq_none_iff, error?_text_cons, error?_clause,
      error?_tableRef, and_assoc]

lemma error?_unionFragments (unions : List UnionMember) :
    (∀ f ∈ unionFragments d unions, error? f = none) ↔
      ∀ p ∈ partsOfUnions unions, ¬p.IsRefused d := by
  match unions with
  | [] => simp [unionFragments, partsOfUnions]
  | ⟨q, all⟩ :: unions =>
    rw [unionFragments, List.forall_mem_cons, error?_unionFragments unions, partsOfUnions,
      List.forall_mem_append, error?_after, ← q.error?_fragment]
    split <;> simp

/-- A query is written exactly if the dialect refuses none of its parts. -/
lemma Query.error?_fragment (q : Query) :
    error? (q.fragment d) = none ↔ ∀ p ∈ q.parts, ¬p.IsRefused d := by
  match q with
  | ⟨select, option, distinct, tables, joins, filter, groupBy, having, orderBy, unions, _, _, _,
      params⟩ =>
    rw [Query.fragment_eq, error?_supply_cons, error?_trimEnd,
      error?_eq_none_of_effects (effects_withUnions d _), List.forall_mem_append, Query.parts,
      error?_unionFragments unions]
    simp only [Query.clauses, List.forall_mem_cons, List.forall_mem_append, error?_append,
      Option.or_eq_none_iff, error?_text_cons, error?_listClause, error?_join, error?_clause,
      error?_selectList, error?_selectFragments select, error?_tableFragments tables,
      error?_joinFragments joins, error?_filterFragment filter, error?_groupingFragments groupBy,
      error?_filterFragment having, error?_selectModifier, error?_orderBy, error?_nil,
      Part.isRefused_distinct_iff, not_not]
    tauto
end

/-! ### Written queries -/

/-- A query is written exactly if its dialect refuses none of its parts, wherever in it they
stand. -/
theorem Builder.exists_build_select_iff (b : Builder) (q : Query) :
    (∃ out, b.build (.select q) = .ok out) ↔ ∀ p ∈ q.parts, ¬p.IsRefused b.dialect := by
  have hwrite : b.write (.statement (.select q)) = b.build (.select q) := rfl
  have hfragment : Draft.fragment b.dialect b.schema (.statement (.select q)) =
      q.fragment b.dialect := rfl
  rw [← q.error?_fragment, ← hwrite, b.write_eq_match, hfragment]
  cases error? (q.fragment b.dialect) <;> simp

end SqlCompose
