import Mathlib
import SqlCompose.Proofs.Bound.Query
import SqlCompose.Proofs.Binding.Batch
import SqlCompose.Proofs.Json.Reading

/-!
# Literals in conditions

The scalars that stand in the place of values in a document, in order. A condition that is read from
the document has slots for what they stand for, in the same order, and for nothing else: a scalar
stands for its value, or for the pattern that looks for its text. Only nulls may have no slot, where
they are written as words. The document brings no parameters of its own.
-/

namespace SqlCompose

open Fragment

namespace Grammar

/-! ### The literals of a document -/

/-- A scalar in the place of a value, or of a text that a pattern looks for. -/
inductive Literal
  | value (scalar : Json)
  | pattern (scalar : Json)

/-- The items of an array, or the scalar itself. -/
def items : Json → List Json
  | .array js => js
  | j => [j]

/-- The scalars of an operand: of a scalar, of an array, or of an array of arrays. -/
def scalarsOf (j : Json) : List Json := (items j).flatMap items

/-- The literals among the operands of an operator. The first operand is the column, and the third
one of a comparison with patterns is a flag. -/
def operandLiterals (keyword : String) (operands : List Json) : List Literal :=
  if (LikeOp.ofKeyword? keyword).isSome then
    ((operands.tail.take 1).flatMap scalarsOf).map .pattern
  else (operands.tail.flatMap scalarsOf).map .value

mutual
/-- The literals of a document, in order. -/
def literals : Json → List Literal
  | .object members => members.flatMap fun m => (scalarsOf m.2).map .value
  | .array (.string op :: operands) =>
    let keyword := Condition.normalizeOperator op
    if keyword ∈ ["and", "or", "not"] then literalsOfList operands
    else operandLiterals keyword operands
  | _ => []

def literalsOfList : List Json → List Literal
  | [] => []
  | j :: js => literals j ++ literalsOfList js
end

namespace Literal

def scalar : Literal → Json
  | .value j | .pattern j => j

def isNull : Literal → Bool
  | .value .null => true
  | _ => false

/-- A literal stands for a value: that of its scalar, or the pattern that looks for its text. -/
inductive Means : Literal → Value → Prop
  | value {j : Json} {v : Value} (h : Scalar j v) : Means (.value j) v
  | pattern {j : Json} {v : Value} (h : Scalar j v) :
    Means (.pattern j) (.text (Pattern.contains.apply v.display))

variable {literal : Literal} {v : Value}

/-- A literal is null exactly if its value is. -/
lemma Means.isNull_eq (h : literal.Means v) : literal.isNull = v.isNull := by
  cases h with
  | value h => cases h <;> rfl
  | pattern h => rfl

end Literal

/-! ### Operands -/

variable {j : Json} {js : List Json} {v : Value} {vs : List Value} {d : Dialect}

lemma Scalar.items_eq (h : Scalar j v) : items j = [j] := by
  cases h <;> rfl

lemma items_flatMap_eq (h : List.Forall₂ Scalar js vs) : js.flatMap items = js := by
  induction h with
  | nil => rfl
  | cons h _ ih => rw [List.flatMap_cons, h.items_eq, ih, List.singleton_append]

lemma Scalar.scalarsOf_eq (h : Scalar j v) : scalarsOf j = [j] := by
  rw [scalarsOf, h.items_eq, List.flatMap_singleton, h.items_eq]

lemma Row.forall₂_items (h : Row j vs) : List.Forall₂ Scalar (items j) vs := by
  cases h with
  | mk h => exact h

lemma Row.forall₂_scalarsOf (h : Row j vs) : List.Forall₂ Scalar (scalarsOf j) vs := by
  have hitems := h.forall₂_items
  rwa [scalarsOf, items_flatMap_eq hitems]

lemma Scalars.forall₂_scalarsOf (h : Scalars j vs) : List.Forall₂ Scalar (scalarsOf j) vs := by
  cases h with
  | one h => exact h.scalarsOf_eq ▸ .cons h .nil
  | many h => exact h.forall₂_scalarsOf

lemma forall₂_scalarsOf_rows {vss : List (List Value)} (h : List.Forall₂ Row js vss) :
    List.Forall₂ Scalar (scalarsOf (.array js)) vss.flatten := by
  change List.Forall₂ Scalar (js.flatMap items) vss.flatten
  induction h with
  | nil => exact .nil
  | cons h _ ih => exact List.rel_append h.forall₂_items ih

/-- As values, scalars stand for what they hold. -/
lemma forall₂_means_value (h : List.Forall₂ Scalar js vs) :
    List.Forall₂ Literal.Means (js.map .value) vs := by
  rw [List.forall₂_map_left_iff]
  exact h.imp fun _ _ => .value

/-- In a comparison with patterns, scalars stand for the patterns that look for their texts. -/
lemma forall₂_means_pattern (h : List.Forall₂ Scalar js vs) :
    List.Forall₂ Literal.Means (js.map .pattern)
      (vs.map fun v => .text (Pattern.contains.apply v.display)) := by
  rw [List.forall₂_map_left_iff, List.forall₂_map_right_iff]
  exact h.imp fun _ _ => .pattern

/-! ### The slots of a predicate -/

def nonNulls (vs : List Value) : List Value := vs.filter (!·.isNull)

lemma nonNulls_append (vs ws : List Value) : nonNulls (vs ++ ws) = nonNulls vs ++ nonNulls ws :=
  List.filter_append ..

lemma nonNulls_nonNulls (vs : List Value) : nonNulls (nonNulls vs) = nonNulls vs := by
  simp [nonNulls]

lemma nonNulls_flatMap {α : Type} (xs : List α) (f : α → List Value) :
    nonNulls (xs.flatMap f) = xs.flatMap fun x => nonNulls (f x) :=
  List.filter_flatMap ..

lemma nonNulls_flatten (vss : List (List Value)) :
    nonNulls vss.flatten = vss.flatMap nonNulls := by
  rw [nonNulls, List.filter_flatten, List.flatMap_def]
  rfl

lemma values_bound (f : Fragment) : values (bound f) = values f := by
  rw [← values_effects f, bound, values, List.filterMap_map]
  apply List.filterMap_congr
  intro p _
  cases p <;> rfl

lemma values_map_piece {α : Type} (xs : List α) (column : α → String) (v : α → Value) :
    values ((xs.map fun x => Bindable.value (column x) (v x)).map (Bindable.piece d)) =
      xs.map v := by
  rw [List.map_map, values, List.filterMap_map]
  exact congrFun List.filterMap_eq_map xs

/-- A list has slots for its values that are no nulls. -/
lemma values_inList (column : String) (vs : List Value) (negated : Bool) :
    values (inList d column vs negated) = nonNulls vs := by
  rw [← values_bound, bound_inList, flatMap_nonNull]
  exact (values_map_piece (nonNulls vs) (fun _ => column) id).trans (List.map_id _)

/-- Values that are looked for as texts get one slot each, as patterns. -/
lemma values_like {op : LikeOp} {column : String}
    (h : error? (like d op column vs false) = none) :
    values (like d op column vs false) =
      vs.map fun v => .text (Pattern.contains.apply v.display) := by
  rw [← values_bound, bound_like h]
  exact values_map_piece vs (fun _ => column) _

/-- A row has a slot for each of its values that is no null. -/
lemma values_equalsRow {columns : List String} {row : List Value}
    (h : row.length = columns.length) : values (equalsRow d columns row) = nonNulls row := by
  have hcell (p : String × Value) : values (if p.2.isNull then
      [.text (d.quoteColumn p.1 ++ " IS NULL")]
      else [.text (d.quoteColumn p.1 ++ "="), .slot p.1 p.2]) = nonNulls [p.2] := by
    obtain ⟨column, v⟩ := p
    cases v <;> rfl
  have hrow : (columns.zip row).map Prod.snd = row := List.map_snd_zip h.le
  calc values (equalsRow d columns row)
      = (columns.zip row).flatMap fun p => nonNulls [p.2] := by
        rw [equalsRow, values_join, List.flatMap_map]
        exact List.flatMap_congr fun p _ => hcell p
    _ = nonNulls ((columns.zip row).map Prod.snd) := by
        rw [List.map_eq_flatMap, nonNulls_flatMap]
    _ = nonNulls row := by rw [hrow]

/-- A comparison of tuples has a slot for every value of every row, nulls included. -/
lemma values_inRowValues {columns : List String} {rows : List (List Value)} {negated : Bool}
    (h : ∀ row ∈ rows, row.length = columns.length) :
    values (inRowValues d columns rows negated) = rows.flatten := by
  have hrow (row : List Value) (hrow : row ∈ rows) :
      values (bracket (join ", " ((columns.zip row).map fun p => [.slot p.1 p.2]))) = row := by
    rw [values_bracket, values_join, List.flatMap_map]
    exact List.map_eq_flatMap.symm.trans (List.map_snd_zip (h row hrow).le)
  rw [inRowValues, values_text_cons, values_bracket, values_join, List.flatMap_map]
  exact (List.flatMap_congr hrow).trans List.flatMap_id'

/-- A comparison of each column has no slot for a null. -/
lemma values_inRowsExpanded {columns : List String} {rows : List (List Value)} {negated : Bool}
    (h : ∀ row ∈ rows, row.length = columns.length) :
    values (inRowsExpanded d columns rows negated) = nonNulls rows.flatten := by
  have hrows : (rows.map (equalsRow d columns)).flatMap values = nonNulls rows.flatten := by
    rw [List.flatMap_map, nonNulls_flatten]
    exact List.flatMap_congr fun row hrow => values_equalsRow (h row hrow)
  rw [← hrows]
  unfold inRowsExpanded
  dsimp only
  split
  · rename_i row hone
    rw [hone, List.flatMap_singleton]
    split
    · rw [values_text_cons, values_bracket]
    · rfl
  · have hany : values (join " OR " ((rows.map (equalsRow d columns)).map bracket)) =
        (rows.map (equalsRow d columns)).flatMap values := by
      rw [values_join, List.flatMap_map]
      exact List.flatMap_congr fun f _ => values_bracket f
    split
    · rw [values_text_cons, values_bracket, hany]
    · rw [values_bracket, hany]

/-- Rows have slots for their cells that are no nulls. Where tuples are compared, the nulls have
slots as well. -/
lemma nonNulls_values_inRows {columns : List String} {rows : List (List Value)} {negated : Bool}
    (h : error? (inRows d columns rows negated) = none) :
    nonNulls (values (inRows d columns rows negated)) = nonNulls rows.flatten := by
  unfold inRows at h ⊢
  split at h
  · simp at h
  · rename_i hfind
    have hwidth : ∀ row ∈ rows, row.length = columns.length := by simpa using hfind
    split_ifs with hempty
    · rw [List.isEmpty_iff.mp hempty]
      cases negated <;> rfl
    · rw [values_inRowValues hwidth]
    · rw [values_inRowsExpanded hwidth, nonNulls_nonNulls]

/-! ### The slots of a condition -/

/-- Literals stand for the values of slots, but for the nulls among them. -/
def Places (ls : List Literal) (placed : List Value) : Prop :=
  ∃ vs, List.Forall₂ Literal.Means ls vs ∧ nonNulls placed = nonNulls vs

section

variable {ls ms : List Literal} {ws : List Value} {c : Condition}

lemma Places.nil : Places [] [] := ⟨[], .nil, rfl⟩

lemma Places.append (hl : Places ls vs) (hm : Places ms ws) : Places (ls ++ ms) (vs ++ ws) := by
  obtain ⟨vs', hvs, hl⟩ := hl
  obtain ⟨ws', hws, hm⟩ := hm
  exact ⟨vs' ++ ws', List.rel_append hvs hws, by rw [nonNulls_append, nonNulls_append, hl, hm]⟩

/-- The members of an object are compared with slots. -/
lemma places_hash {members : List (String × Json)} {pairs : List (String × Operand)}
    (h : List.Forall₂ (fun m p => m.1 = p.1 ∧ Comparand m.2 p.2) members pairs) :
    Places (members.flatMap fun m => (scalarsOf m.2).map .value)
      ((hashFragments d pairs).flatMap values) := by
  induction h with
  | nil => exact .nil
  | @cons m p _ _ h _ ih =>
    obtain ⟨column, operand⟩ := p
    rw [List.flatMap_cons]
    cases h.2 with
    | @value v hv =>
      rw [hashFragments, List.flatMap_cons]
      refine .append ⟨[v], forall₂_means_value (hv.scalarsOf_eq ▸ .cons hv .nil), ?_⟩ ih
      cases v <;> rfl
    | @list vs hvs =>
      rw [hashFragments, List.flatMap_cons]
      refine .append ⟨vs, forall₂_means_value hvs.forall₂_scalarsOf, ?_⟩ ih
      rw [values_inList, nonNulls_nonNulls]

lemma places_range {negated : Bool} {keyword : String} (hkeyword : LikeOp.ofKeyword? keyword = none)
    (h : Range negated js c) : Places (operandLiterals keyword js) (values (c.fragment d)) := by
  cases h with
  | @mk column low high name v w _ hlow hhigh =>
    refine ⟨[v, w], ?_, rfl⟩
    have hoperands : operandLiterals keyword [column, low, high] = [.value low, .value high] := by
      simp [operandLiterals, hkeyword, hlow.scalarsOf_eq, hhigh.scalarsOf_eq]
    rw [hoperands]
    exact .cons (.value hlow) (.cons (.value hhigh) .nil)

/-- The values of a membership get their slots, in the order in which they are written. -/
lemma places_within {negated : Bool} {keyword : String}
    (hkeyword : LikeOp.ofKeyword? keyword = none) (h : Within negated js c)
    (herror : error? (c.fragment d) = none) :
    Places (operandLiterals keyword js) (values (c.fragment d)) := by
  cases h with
  | @list column operand name vs _ hvalues =>
    refine ⟨vs, ?_, ?_⟩
    · have hoperands : operandLiterals keyword [column, operand] =
          (scalarsOf operand).map .value := by
        simp [operandLiterals, hkeyword]
      rw [hoperands]
      exact forall₂_means_value hvalues.forall₂_scalarsOf
    · rw [Condition.fragment, values_inList, nonNulls_nonNulls]
  | @rows columns rows names vss _ hrows =>
    refine ⟨vss.flatten, ?_, ?_⟩
    · have hoperands : operandLiterals keyword [.array columns, .array rows] =
          (scalarsOf (.array rows)).map .value := by
        simp [operandLiterals, hkeyword]
      rw [hoperands]
      exact forall₂_means_value (forall₂_scalarsOf_rows hrows)
    · rw [Condition.fragment] at herror ⊢
      split at herror
      · simp at herror
      · rename_i hcolumns
        rw [if_neg hcolumns]
        exact nonNulls_values_inRows herror

/-- The values of a comparison with patterns get their slots. -/
lemma places_likeness {family : LikeOp} (h : Likeness family js c)
    (herror : error? (c.fragment d) = none) :
    Places (operandLiterals family.keyword js) (values (c.fragment d)) := by
  have hkeyword : (LikeOp.ofKeyword? family.keyword).isSome = true := by
    rw [LikeOp.ofKeyword?_eq_some_iff.mpr rfl]
    rfl
  have hoperands (column operand : Json) (rest : List Json) :
      operandLiterals family.keyword (column :: operand :: rest) =
        (scalarsOf operand).map .pattern := by
    simp [operandLiterals, hkeyword]
  cases h with
  | plain _ hvalues =>
    rw [hoperands]
    refine ⟨_, forall₂_means_pattern hvalues.forall₂_scalarsOf, ?_⟩
    rw [Condition.fragment] at herror ⊢
    rw [values_like herror]
  | flagged _ hvalues flag =>
    rw [hoperands]
    refine ⟨_, forall₂_means_pattern hvalues.forall₂_scalarsOf, ?_⟩
    rw [Condition.fragment] at herror ⊢
    rw [values_like herror]

lemma places_comparison {op : CompareOp} {token : String} (htoken : token ∈ op.tokens)
    (h : Comparison op js c) : Places (operandLiterals token js) (values (c.fragment d)) := by
  have hkeyword : LikeOp.ofKeyword? token = none := by
    cases op <;> fin_cases htoken <;> rfl
  cases h with
  | @mk column operand name v _ hvalue =>
    have hoperands : operandLiterals token [column, operand] = [.value operand] := by
      simp [operandLiterals, hkeyword, hvalue.scalarsOf_eq]
    rw [hoperands]
    refine ⟨[v], .cons (.value hvalue) .nil, ?_⟩
    rw [Condition.fragment]
    cases v <;> rfl

/-- An operator that takes no conditions has slots for its operands. -/
lemma places_leaf {keyword : String} (h : Leaf keyword js c)
    (herror : error? (c.fragment d) = none) :
    Places (operandLiterals keyword js) (values (c.fragment d)) := by
  cases h with
  | between h | notBetween h => exact places_range rfl h
  | within h | notWithin h => exact places_within rfl h herror
  | like h => exact places_likeness h herror
  | compare htoken h => exact places_comparison htoken h

end

/-! ### The slots of a document -/

lemma values_joinNonBlank (sep : String) (fs : List Fragment) :
    values (joinNonBlank sep fs) = fs.flatMap values := by
  rw [← values_effects, effects_joinNonBlank, values, List.filterMap_flatMap]
  exact List.flatMap_congr fun f _ => values_effects f

lemma values_group (conjunction : Bool) (members : List (Bool × Fragment)) :
    values (group conjunction members) = members.flatMap fun m => values m.2 := by
  rw [← values_effects, effects_group, values, List.filterMap_flatMap]
  exact List.flatMap_congr fun m _ => values_effects m.2

/-- The members of a group are written to slots if each of them is. -/
def PlacesAll (d : Dialect) (js : List Json) : Prop :=
  ∀ (conjunction : Bool) (cs : List Condition), List.Forall₂ Derives js cs →
    (∀ m ∈ memberFragments d conjunction cs, error? m.2 = none) →
    Places (literalsOfList js) ((memberFragments d conjunction cs).flatMap fun m => values m.2)

/-- An operator that combines conditions has the literals of these, any other its own. -/
lemma literals_operator {op keyword : String} (hop : Condition.normalizeOperator op = keyword) :
    literals (.array (.string op :: js)) =
      if keyword ∈ ["and", "or", "not"] then literalsOfList js else operandLiterals keyword js := by
  subst hop
  rfl

/-- An array that starts with an operator has slots for its literals if its operands have. -/
lemma places_operator {op : String} {c : Condition} (hoperands : PlacesAll d js)
    (h : Derives (.array (.string op :: js)) c) (herror : error? (c.fragment d) = none) :
    Places (literals (.array (.string op :: js))) (values (c.fragment d)) := by
  have hgroup {keyword : String} (hop : Spells op keyword) (hmem : keyword ∈ ["and", "or", "not"])
      (htrimmed : isTrimmed keyword = true) :
      literals (.array (.string op :: js)) = literalsOfList js := by
    rw [literals_operator ((spells_iff htrimmed).mp hop), if_pos hmem]
  cases h with
  | and hop h =>
    rw [hgroup hop (by decide) (by decide), Condition.fragment, values_group]
    rw [Condition.fragment, error?_group] at herror
    exact hoperands true _ h herror
  | or hop h =>
    rw [hgroup hop (by decide) (by decide), Condition.fragment, values_group]
    rw [Condition.fragment, error?_group] at herror
    exact hoperands false _ h herror
  | @not _ j item hop h =>
    rw [hgroup hop (by decide) (by decide)]
    have hitem : error? (item.fragment d) = none := by
      rw [Condition.fragment] at herror
      split at herror
      · exact herror
      · simpa using herror
    have hvalues : values (Condition.fragment d (.not item)) = values (item.fragment d) := by
      rw [Condition.fragment]
      split
      · rfl
      · rw [values_text_cons, values_bracket]
    have hplaces := hoperands true [item] (.cons h .nil) (by simpa [memberFragments] using hitem)
    rw [hvalues]
    simpa [memberFragments] using hplaces
  | leaf hop h =>
    rw [literals_operator ((spells_iff h.isTrimmed).mp hop), if_neg h.not_group]
    exact places_leaf h herror

mutual

/-- A document has slots for its literals. -/
lemma places_fragment (d : Dialect) : ∀ (j : Json) (c : Condition), Derives j c →
    error? (c.fragment d) = none → Places (literals j) (values (c.fragment d))
  | .array (.string _ :: js), _, h, herror => places_operator (placesAll_fragment d js) h herror
  | .object _, _, .hash h, _ => by
    rw [Condition.fragment, values_joinNonBlank]
    exact places_hash h
  | .string _, _, .raw _, _ => .nil
  | .array [], _, .nothing, _ => .nil

lemma placesAll_fragment (d : Dialect) : ∀ js : List Json, PlacesAll d js
  | [], _, _, .nil, _ => .nil
  | j :: js, conjunction, _, .cons h hs, herror => by
    rw [memberFragments, List.forall_mem_cons] at herror
    rw [memberFragments, List.flatMap_cons]
    exact (places_fragment d j _ h herror.1).append
      (placesAll_fragment d js conjunction _ hs herror.2)

end

/-! ### Parameters of its own -/

/-- A condition of a document comes with no parameters of its own. -/
lemma maps_of_leaf {keyword : String} {c : Condition} (h : Leaf keyword js c) : c.maps = [] := by
  cases h with
  | between h | notBetween h => cases h; rfl
  | within h | notWithin h => cases h <;> rfl
  | like h => cases h <;> rfl
  | compare _ h => cases h; rfl

lemma mapsOfPairs_eq_nil {members : List (String × Json)} {pairs : List (String × Operand)}
    (h : List.Forall₂ (fun m p => m.1 = p.1 ∧ Comparand m.2 p.2) members pairs) :
    mapsOfPairs pairs = [] := by
  induction h with
  | nil => rfl
  | @cons _ p _ _ h _ ih =>
    obtain ⟨column, operand⟩ := p
    rw [mapsOfPairs, ih, List.append_nil]
    cases h.2 <;> rfl

mutual

/-- A verbatim text in a document brings no parameters with it. -/
lemma maps_of_derives : ∀ (j : Json) (c : Condition), Derives j c → ∀ m ∈ c.maps, m = ∅
  | .array (.string _ :: js), _, h => by
    cases h with
    | and _ h | or _ h => exact mapsOfConditions_of_derives js _ h
    | @not _ j item _ h =>
      have hitem := mapsOfConditions_of_derives [j] [item] (.cons h .nil)
      rwa [mapsOfConditions, mapsOfConditions, List.append_nil] at hitem
    | leaf _ h => rw [maps_of_leaf h]; exact nofun
  | .object _, _, .hash h => by rw [Condition.maps, mapsOfPairs_eq_nil h]; exact nofun
  | .string _, _, .raw _ => by
    rw [Condition.maps]
    exact fun m hm => List.mem_singleton.mp hm
  | .array [], _, .nothing => nofun

lemma mapsOfConditions_of_derives : ∀ (js : List Json) (cs : List Condition),
    List.Forall₂ Derives js cs → ∀ m ∈ mapsOfConditions cs, m = ∅
  | [], _, .nil => nofun
  | j :: js, _, .cons h hs => by
    rw [mapsOfConditions, List.forall_mem_append]
    exact ⟨maps_of_derives j _ h, mapsOfConditions_of_derives js _ hs⟩

end

end Grammar

end SqlCompose
