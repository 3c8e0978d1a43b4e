import Mathlib
import SqlCompose.Proofs.Supplied.Basic
import SqlCompose.Proofs.Fragment.Query

/-!
# What a written description supplies

A fragment that refuses nothing supplies the maps of its description, all of them and in order. The
predicates on values supply nothing; where an operand has maps of its own and its operator does not
take it, the fragment refuses.
-/

namespace SqlCompose

namespace Fragment

/-! ### Predicates on values -/

@[simp] lemma supplies_slots (column : String) (values : List Value) :
    (values.map fun v => [Piece.slot column v]).flatMap supplies = [] := by
  rw [List.flatMap_map]
  simp

@[simp] lemma supplies_inList (d : Dialect) (column : String) (values : List Value)
    (negated : Bool) : supplies (inList d column values negated) = [] := by
  unfold inList ofEmptyList
  dsimp only
  split <;> split_ifs <;> simp

@[simp] lemma supplies_inRows (d : Dialect) (columns : List String) (rows : List (List Value))
    (negated : Bool) : supplies (inRows d columns rows negated) = [] := by
  have hequals (row : List Value) : supplies (equalsRow d columns row) = [] := by
    rw [equalsRow, supplies_join, List.flatMap_map, List.flatMap_eq_nil_iff]
    rintro ⟨column, v⟩ -
    dsimp only
    split <;> rfl
  unfold inRows
  split
  · rfl
  · split_ifs
    · cases negated <;> rfl
    · simp only [inRowValues, supplies_text_cons, supplies_bracket, supplies_join,
        List.flatMap_map]
      simp
    · have halternatives : (rows.map (equalsRow d columns)).flatMap supplies = [] := by
        simp [List.flatMap_map, hequals]
      simp only [inRowsExpanded]
      split
      · rename_i row h
        rw [h] at halternatives
        have hrow : supplies row = [] := by simpa using halternatives
        split <;> simp [hrow]
      · have hbrackets : ((rows.map (equalsRow d columns)).map bracket).flatMap supplies = [] := by
          simpa [List.flatMap_map] using halternatives
        split <;> simp only [supplies_text_cons, supplies_bracket, supplies_join, hbrackets]

@[simp] lemma supplies_like (d : Dialect) (op : LikeOp) (column : String) (values : List Value)
    (rawPattern : Bool) : supplies (like d op column values rawPattern) = [] := by
  have hvalue (v : Value) : supplies (likeValue d op column rawPattern v) = [] := by
    unfold likeValue
    dsimp only
    split_ifs <;> rfl
  have hvalues : (values.map (likeValue d op column rawPattern)).flatMap supplies = [] := by
    simp [List.flatMap_map, hvalue]
  unfold like
  split
  · cases op <;> rfl
  · rename_i one h
    rw [h] at hvalues
    simpa using hvalues
  · rw [supplies_bracket, supplies_join, hvalues]

/-! ### Lookups -/

lemma supplies_ofScalar {lookup : Lookup} {operand : Operand} {predicate : Value → Fragment}
    (h : ∀ v, supplies (predicate v) = []) : supplies (ofScalar lookup operand predicate) = [] := by
  cases operand with
  | value v => exact h v
  | _ => rfl

lemma supplies_ofPattern (d : Dialect) (lookup : Lookup) (field : String) (pattern : Pattern)
    (ignoreCase : Bool) (operand : Operand) :
    supplies (ofPattern d lookup field pattern ignoreCase operand) = [] := by
  apply supplies_ofScalar
  intro v
  split
  · rfl
  · cases d <;> cases ignoreCase <;> rfl

@[simp] lemma supplies_amongValues (field : String) (values : List Value) :
    supplies (amongValues field values) = [] := by
  unfold amongValues
  split <;> simp

@[simp] lemma supplies_lookup (d : Dialect) (lookup : Lookup) (field : String)
    (operand : Operand) : supplies (lookup.fragment d field operand) = [] := by
  cases lookup with
  | contains | icontains | startsWith | istartsWith | endsWith | iendsWith =>
    exact supplies_ofPattern ..
  | exact | iexact =>
    apply supplies_ofScalar
    intro v
    cases v <;> rfl
  | gt | gte | lt | lte => exact supplies_ofScalar fun v => rfl
  | range =>
    simp only [Lookup.fragment]
    split <;> rfl
  | within => cases operand <;> simp [Lookup.fragment, refuseLookup]
  | isNull =>
    apply supplies_ofScalar
    intro v
    unfold nullCheck
    split <;> rfl
  | regex | iregex => exact supplies_ofScalar fun v => by cases d <;> rfl
  | part p =>
    apply supplies_ofScalar
    intro v
    unfold datePart
    dsimp only
    split
    · rfl
    · split <;> rfl
  | search => rfl

/-- An operand with maps of its own is none that a lookup takes. -/
lemma maps_eq_nil_of_lookup {d : Dialect} {lookup : Lookup} {field : String} {operand : Operand}
    (h : error? (lookup.fragment d field operand) = none) : operand.maps = [] := by
  cases operand with
  | value _ | list _ => rfl
  | query _ | expr _ =>
    cases lookup <;> simp [Lookup.fragment, ofPattern, ofScalar, refuseLookup] at h

@[simp] lemma supplies_expr (e : Expression) : supplies (expr e) = [e.params] := rfl

@[simp] lemma error?_expr (e : Expression) : error? (expr e) = none := rfl

/-- An ordering supplies the maps of its expressions. -/
lemma supplies_orderBy (d : Dialect) (items : List OrderItem) :
    supplies (orderBy d items) = items.flatMap OrderItem.maps := by
  have hitem (item : OrderItem) : supplies (orderItem d item) = item.maps := by
    cases item <;> rfl
  unfold orderBy
  split
  · rename_i h
    simp [List.isEmpty_iff.mp h]
  · rw [supplies_after, supplies_join, List.flatMap_map]
    exact List.flatMap_congr fun item _ => hitem item

lemma supplies_distinct (d : Dialect) (distinct : Distinct) :
    supplies (Fragment.distinct d distinct) = [] := by
  cases distinct with
  | no | all => rfl
  | on columns =>
    simp only [Fragment.distinct]
    split <;> rfl

lemma supplies_checkJoin (d : Dialect) (kind : JoinKind) : supplies (checkJoin d kind) = [] := by
  unfold checkJoin
  split <;> rfl

end Fragment

open Fragment

/-! ### Conditions and queries -/

/-- The parts of a query have its effects, but for its own parameters. -/
lemma effects_withUnions (d : Dialect) (q : Query) :
    effects (q.withUnions d) = (q.clauses d ++ unionFragments d q.unions).flatMap effects := by
  rw [Query.withUnions, List.flatMap_append]
  split
  · rename_i h
    rw [List.isEmpty_iff.mp h]
    simp [Query.simple, unionFragments]
  · rw [effects_append, effects_text_cons, effects_join]
    split <;> simp [Query.simple]

lemma supplies_selectModifier (option : Option String) :
    supplies (selectModifier option) = [] := by
  cases option with
  | none => rfl
  | some option =>
    unfold selectModifier
    dsimp only
    split <;> rfl

lemma error?_selectList {d : Dialect} {items : List SelectItem} :
    error? (selectList d items) = none ↔ ∀ f ∈ selectFragments d items, error? f = none := by
  unfold selectList
  cases items with
  | nil => simp [selectFragments]
  | cons item items => simp

lemma supplies_selectList (d : Dialect) (items : List SelectItem) :
    supplies (selectList d items) = (selectFragments d items).flatMap supplies := by
  unfold selectList
  cases items with
  | nil => rfl
  | cons item items => simp

/-- An alias supplies nothing. -/
lemma supplies_tableRef {d : Dialect} {source : TableSource} {label : Option String}
    (h : error? (TableRef.fragment d ⟨source, label⟩) = none)
    (hsource : error? (source.fragment d) = none → supplies (source.fragment d) = source.maps) :
    supplies (TableRef.fragment d ⟨source, label⟩) = source.maps := by
  cases label with
  | none => exact hsource h
  | some label =>
    rw [TableRef.fragment, error?_append, Option.or_eq_none_iff] at h
    rw [TableRef.fragment, supplies_append, hsource h.1]
    simp

mutual
/-- A condition supplies its maps in the order of its text. -/
lemma Condition.supplies_fragment {d : Dialect} (c : Condition)
    (h : error? (c.fragment d) = none) : supplies (c.fragment d) = c.maps := by
  match c with
  | .hash pairs =>
    rw [Condition.fragment, error?_joinNonBlank] at h
    rw [Condition.fragment, supplies_joinNonBlank, supplies_hashFragments pairs h, Condition.maps]
  | .and items =>
    rw [Condition.fragment, error?_group] at h
    rw [Condition.fragment, supplies_group, supplies_memberFragments items h, Condition.maps]
  | .or items =>
    rw [Condition.fragment, error?_group] at h
    rw [Condition.fragment, supplies_group, supplies_memberFragments items h, Condition.maps]
  | .not item =>
    have hitem : error? (item.fragment d) = none := by
      rw [Condition.fragment] at h
      split at h
      · exact h
      · simpa using h
    rw [Condition.fragment, Condition.maps, ← item.supplies_fragment hitem]
    split <;> simp
  | .between .. => simp [Condition.fragment, Condition.maps]
  | .within columns (.query q) _ =>
    rw [Condition.fragment] at h ⊢
    split at h
    · simp at h
    · rename_i hcolumns
      rw [error?_text_cons, error?_bracket] at h
      rw [if_neg hcolumns, supplies_text_cons, supplies_bracket, q.supplies_fragment h,
        Condition.maps]
  | .within columns (.list values) _ =>
    simp only [Condition.fragment, Condition.maps]
    split
    · rfl
    · exact supplies_inList ..
    · rfl
  | .within columns (.rows rows) _ =>
    simp only [Condition.fragment, Condition.maps]
    split
    · rfl
    · exact supplies_inRows ..
  | .like .. => rw [Condition.fragment, Condition.maps, supplies_like]
  | .exist q _ =>
    rw [Condition.fragment, error?_text_cons, error?_bracket] at h
    rw [Condition.fragment, supplies_text_cons, supplies_bracket, q.supplies_fragment h,
      Condition.maps]
  | .compare _ _ (.value v) =>
    rw [Condition.fragment]
    cases v <;> simp [Condition.maps, Operand.maps, Value.isNull]
  | .compare _ _ (.query q) =>
    rw [Condition.fragment, error?_text_cons, error?_bracket] at h
    rw [Condition.fragment, supplies_text_cons, supplies_bracket, q.supplies_fragment h,
      Condition.maps, Operand.maps]
  | .compare _ _ (.expr e) => simp [Condition.fragment, Condition.maps, Operand.maps]
  | .compare _ _ (.list _) => simp [Condition.fragment] at h
  | .raw .. => simp [Condition.fragment, Condition.maps]
  | .expr e => simp [Condition.fragment, Condition.maps]
  | .lookup field lookup (.query q) =>
    by_cases hl : lookup = .within
    · subst hl
      rw [Condition.fragment, error?_text_cons, error?_bracket] at h
      rw [Condition.fragment, supplies_text_cons, supplies_bracket, q.supplies_fragment h,
        Condition.maps, Operand.maps]
    · rw [Condition.fragment_lookup fun _ h' => absurd h' hl] at h ⊢
      rw [supplies_lookup, Condition.maps, maps_eq_nil_of_lookup h]
  | .lookup field lookup (.value _) | .lookup field lookup (.list _)
  | .lookup field lookup (.expr _) =>
    rw [Condition.fragment_lookup (by simp)] at h ⊢
    rw [supplies_lookup, Condition.maps, maps_eq_nil_of_lookup h]

lemma supplies_hashFragments {d : Dialect} (pairs : List (String × Operand))
    (h : ∀ f ∈ hashFragments d pairs, error? f = none) :
    (hashFragments d pairs).flatMap supplies = mapsOfPairs pairs := by
  match pairs with
  | [] => rfl
  | (column, .value v) :: pairs =>
    rw [hashFragments, List.forall_mem_cons] at h
    rw [hashFragments, List.flatMap_cons, supplies_hashFragments pairs h.2, mapsOfPairs]
    cases v <;> simp [Operand.maps, Value.isNull]
  | (column, .list values) :: pairs =>
    rw [hashFragments, List.forall_mem_cons] at h
    rw [hashFragments, List.flatMap_cons, supplies_hashFragments pairs h.2, mapsOfPairs,
      supplies_inList, Operand.maps]
  | (column, .query q) :: pairs =>
    rw [hashFragments, List.forall_mem_cons, error?_text_cons, error?_bracket] at h
    rw [hashFragments, List.flatMap_cons, supplies_hashFragments pairs h.2, mapsOfPairs,
      supplies_text_cons, supplies_bracket, q.supplies_fragment h.1, Operand.maps]
  | (column, .expr e) :: pairs =>
    rw [hashFragments, List.forall_mem_cons] at h
    rw [hashFragments, List.flatMap_cons, supplies_hashFragments pairs h.2, mapsOfPairs,
      supplies_text_cons, supplies_expr, Operand.maps]

lemma supplies_memberFragments {d : Dialect} {conjunction : Bool} (items : List Condition)
    (h : ∀ m ∈ memberFragments d conjunction items, error? m.2 = none) :
    ((memberFragments d conjunction items).flatMap fun m => supplies m.2) =
      mapsOfConditions items := by
  match items with
  | [] => rfl
  | item :: items =>
    rw [memberFragments, List.forall_mem_cons] at h
    rw [memberFragments, List.flatMap_cons, item.supplies_fragment h.1,
      supplies_memberFragments items h.2, mapsOfConditions]

lemma supplies_filterFragment {d : Dialect} (filter : Option Condition)
    (h : error? (filterFragment d filter) = none) :
    supplies (filterFragment d filter) = mapsOfFilter filter := by
  match filter with
  | none => rfl
  | some c => exact c.supplies_fragment h

lemma Selectable.supplies_fragment {d : Dialect} (item : Selectable)
    (h : error? (item.fragment d) = none) : supplies (item.fragment d) = item.maps := by
  match item with
  | .column _ => rfl
  | .expr e => rfl
  | .query q =>
    rw [Selectable.fragment, error?_bracket] at h
    rw [Selectable.fragment, supplies_bracket, q.supplies_fragment h, Selectable.maps]

lemma supplies_groupingFragments {d : Dialect} (items : List Selectable)
    (h : ∀ f ∈ groupingFragments d items, error? f = none) :
    (groupingFragments d items).flatMap supplies = mapsOfGrouping items := by
  match items with
  | [] => rfl
  | item :: items =>
    rw [groupingFragments, List.forall_mem_cons] at h
    rw [groupingFragments, List.flatMap_cons, item.supplies_fragment h.1,
      supplies_groupingFragments items h.2, mapsOfGrouping]

lemma supplies_selectFragments {d : Dialect} (items : List SelectItem)
    (h : ∀ f ∈ selectFragments d items, error? f = none) :
    (selectFragments d items).flatMap supplies = mapsOfSelect items := by
  match items with
  | [] => rfl
  | ⟨item, none⟩ :: items =>
    rw [selectFragments, List.forall_mem_cons] at h
    rw [selectFragments, List.flatMap_cons, item.supplies_fragment h.1,
      supplies_selectFragments items h.2, mapsOfSelect]
  | ⟨item, some label⟩ :: items =>
    rw [selectFragments, List.forall_mem_cons, error?_append, Option.or_eq_none_iff] at h
    rw [selectFragments, List.flatMap_cons, supplies_append, item.supplies_fragment h.1.1,
      supplies_selectFragments items h.2, mapsOfSelect]
    simp

lemma TableSource.supplies_fragment {d : Dialect} (source : TableSource)
    (h : error? (source.fragment d) = none) : supplies (source.fragment d) = source.maps := by
  match source with
  | .table _ => rfl
  | .expr e => rfl
  | .query q =>
    rw [TableSource.fragment, error?_bracket] at h
    rw [TableSource.fragment, supplies_bracket, q.supplies_fragment h, TableSource.maps]

lemma supplies_tableFragments {d : Dialect} (tables : List TableRef)
    (h : ∀ f ∈ tableFragments d tables, error? f = none) :
    (tableFragments d tables).flatMap supplies = mapsOfTables tables := by
  match tables with
  | [] => rfl
  | ⟨source, label⟩ :: tables =>
    rw [tableFragments, List.forall_mem_cons] at h
    rw [tableFragments, List.flatMap_cons, supplies_tableRef h.1 source.supplies_fragment,
      supplies_tableFragments tables h.2, mapsOfTables]

lemma supplies_joinFragments {d : Dialect} (joins : List Join)
    (h : ∀ f ∈ joinFragments d joins, error? f = none) :
    (joinFragments d joins).flatMap supplies = mapsOfJoins joins := by
  match joins with
  | [] => rfl
  | ⟨kind, ⟨source, label⟩, on⟩ :: joins =>
    simp only [joinFragments_cons, List.forall_mem_cons, error?_append, error?_text_cons,
      Option.or_eq_none_iff, error?_clause] at h
    obtain ⟨⟨-, htable, hon⟩, hjoins⟩ := h
    rw [joinFragments_cons, List.flatMap_cons, supplies_joinFragments joins hjoins, mapsOfJoins,
      supplies_append, supplies_text_cons, supplies_append, supplies_checkJoin, supplies_clause,
      supplies_tableRef htable source.supplies_fragment, supplies_filterFragment on hon]
    rfl

lemma supplies_unionFragments {d : Dialect} (unions : List UnionMember)
    (h : ∀ f ∈ unionFragments d unions, error? f = none) :
    (unionFragments d unions).flatMap supplies = mapsOfUnions unions := by
  match unions with
  | [] => rfl
  | ⟨q, all⟩ :: unions =>
    rw [unionFragments, List.forall_mem_cons] at h
    have hq : error? (q.fragment d) = none := by
      have := h.1
      rw [error?_after] at this
      split at this <;> simpa using this
    rw [unionFragments, List.flatMap_cons, supplies_unionFragments unions h.2, mapsOfUnions,
      ← q.supplies_fragment hq, supplies_after]
    split <;> simp

/-- A query supplies its maps in the order of its text. -/
lemma Query.supplies_fragment {d : Dialect} (q : Query) (h : error? (q.fragment d) = none) :
    supplies (q.fragment d) = q.maps := by
  match q with
  | ⟨select, option, distinct, tables, joins, filter, groupBy, having, orderBy, unions, _, _, _,
      params⟩ =>
    rw [Query.fragment_eq, error?_supply_cons, error?_trimEnd,
      error?_eq_none_of_effects (effects_withUnions d _), List.forall_mem_append] at h
    obtain ⟨hclauses, hunions⟩ := h
    simp only [Query.clauses, List.forall_mem_cons, error?_append, Option.or_eq_none_iff,
      error?_text_cons, error?_listClause, error?_join, error?_clause] at hclauses
    obtain ⟨⟨-, hselect⟩, htables, hjoins, hfilter, hgrouping, hhaving, -⟩ := hclauses
    rw [Query.fragment_eq, supplies_supply_cons, supplies_trimEnd,
      supplies_of_effects (effects_withUnions d _), List.flatMap_append,
      supplies_unionFragments unions hunions, Query.maps]
    simp only [Query.clauses, List.flatMap_cons, supplies_append, supplies_text_cons,
      supplies_distinct, supplies_selectModifier, supplies_listClause, supplies_join,
      supplies_clause, supplies_orderBy, supplies_tableFragments tables htables,
      supplies_joinFragments joins hjoins, supplies_filterFragment filter hfilter,
      supplies_groupingFragments groupBy hgrouping, supplies_filterFragment having hhaving,
      supplies_selectList, supplies_selectFragments select (error?_selectList.mp hselect)]
    simp
end

end SqlCompose
