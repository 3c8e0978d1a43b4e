import Mathlib
import SqlCompose.Proofs.Bound.Basic
import SqlCompose.Proofs.Text.Split

/-!
# What a fragment binds

The pieces of a fragment that bind something, each under the letters and digits of its hint. Quoting
adds neither a letter nor a digit to a name, so a hint is the same in every dialect; and a predicate
on values that is not refused binds what its description does.
-/

namespace SqlCompose

/-! ### Hints -/

namespace Binding

/-- The letters and digits of a text. -/
def alphanums (s : String) : List Char := s.toList.filter Char.isAlphanum

@[simp] lemma alphanums_append (s t : String) :
    alphanums (s ++ t) = alphanums s ++ alphanums t := by
  simp [alphanums]

lemma alphanums_join {sep : String} (h : alphanums sep = []) (parts : List String) :
    alphanums (Text.join sep parts) = parts.flatMap alphanums := by
  unfold Text.join
  induction parts with
  | nil => rfl
  | cons part parts ih =>
    cases parts with
    | nil => simp
    | cons next parts =>
      rw [String.intercalate_cons_cons, alphanums_append, alphanums_append, ih, h]
      simp

variable (d : Dialect)

@[simp] lemma alphanums_quoteSegment (name : String) :
    alphanums (d.quoteSegment name) = alphanums name := by
  unfold Dialect.quoteSegment
  dsimp only
  split
  · rfl
  · have hopening : d.nameQuotes.1.isAlphanum = false := by cases d <;> rfl
    have hclosing : d.nameQuotes.2.isAlphanum = false := by cases d <;> rfl
    simp [alphanums, hopening, hclosing]

@[simp] lemma alphanums_quoteColumnSegment (name : String) :
    alphanums (d.quoteColumnSegment name) = alphanums name := by
  unfold Dialect.quoteColumnSegment
  split
  · rfl
  · exact alphanums_quoteSegment d name

@[simp] lemma alphanums_quoteTable (name : String) :
    alphanums (d.quoteTable name) = alphanums name := by
  unfold Dialect.quoteTable
  split
  · rfl
  · have hsegments : (fun segment => alphanums (d.quoteSegment (.ofList segment))) =
        List.filter Char.isAlphanum := by
      funext segment
      rw [alphanums_quoteSegment, alphanums, String.toList_ofList]
    rw [alphanums_join rfl, List.flatMap_map, Text.split, List.flatMap_map, hsegments,
      Chars.flatMap_filter_split rfl, alphanums]

@[simp] lemma alphanums_quoteColumn (name : String) :
    alphanums (d.quoteColumn name) = alphanums name := by
  unfold Dialect.quoteColumn
  split
  · rfl
  · split
    · rename_i table column hsplit
      obtain ⟨⟨before, after⟩, hchars, heq⟩ := Option.map_eq_some_iff.mp hsplit
      obtain ⟨rfl, rfl⟩ := Prod.mk.inj heq
      have hname := Chars.splitLast_eq_some hchars
      simp only [alphanums_append, alphanums_quoteTable, alphanums_quoteColumnSegment]
      simp [alphanums, hname]
    · exact alphanums_quoteColumnSegment d name

/-- Only the letters and digits of a hint reach a placeholder. -/
lemma base_congr {hint hint' : String} (h : alphanums hint = alphanums hint') :
    base hint = base hint' := by
  rw [alphanums, alphanums] at h
  rw [base, base, h]

/-- A hint is the same for the quotes of any dialect. -/
@[simp] lemma base_quoteColumn (name : String) : base (d.quoteColumn name) = base name :=
  base_congr (alphanums_quoteColumn d name)

@[simp] lemma base_base (hint : String) : base (base hint) = base hint := by
  have hself : (alphanums hint).filter Char.isAlphanum = alphanums hint := by
    simp [alphanums, List.filter_filter]
  cases hchars : alphanums hint with
  | nil =>
    have hbase : base hint = "p" := by
      rw [alphanums] at hchars
      rw [base, hchars]
    rw [hbase]
    rfl
  | cons c chars =>
    have hbase : base hint = .ofList (alphanums hint) := by
      rw [hchars]
      rw [alphanums] at hchars
      rw [base, hchars]
    rw [hbase, base, String.toList_ofList, hself, hchars]

lemma bind_base (b : Binding) (hint : String) (v : Value) :
    b.bind (base hint) v = b.bind hint v := by
  simp [Binding.bind, nextNumber]

end Binding

/-! ### Bound pieces -/

/-- A piece with the letters and digits of its hint. -/
def Piece.based : Piece → Piece
  | .slot hint v => .slot (Binding.base hint) v
  | piece => piece

namespace Fragment

/-- The pieces of a fragment that are no text, with the letters and digits of their hints. -/
def bound (f : Fragment) : Fragment := (effects f).map Piece.based

@[simp] lemma bound_nil : bound [] = [] := rfl

@[simp] lemma bound_append (f g : Fragment) : bound (f ++ g) = bound f ++ bound g := by
  simp [bound]

@[simp] lemma bound_text_cons (s : String) (f : Fragment) : bound (.text s :: f) = bound f := rfl

@[simp] lemma bound_slot_cons (hint : String) (v : Value) (f : Fragment) :
    bound (.slot hint v :: f) = .slot (Binding.base hint) v :: bound f := rfl

@[simp] lemma bound_supply_cons (params : Params) (f : Fragment) :
    bound (.supply params :: f) = .supply params :: bound f := rfl

/-- A compound fragment binds what its parts bind, in order. -/
lemma bound_of_effects {f : Fragment} {fs : List Fragment} (h : effects f = fs.flatMap effects) :
    bound f = fs.flatMap bound := by
  rw [bound, h, List.map_flatMap]
  rfl

@[simp] lemma bound_bracket (f : Fragment) : bound (bracket f) = bound f := by
  simp [bound]

@[simp] lemma bound_after (keyword : String) (f : Fragment) :
    bound (after keyword f) = bound f := rfl

@[simp] lemma bound_join (sep : String) (fs : List Fragment) :
    bound (join sep fs) = fs.flatMap bound :=
  bound_of_effects (effects_join sep fs)

@[simp] lemma bound_joinNonBlank (sep : String) (fs : List Fragment) :
    bound (joinNonBlank sep fs) = fs.flatMap bound :=
  bound_of_effects (effects_joinNonBlank sep fs)

@[simp] lemma bound_trimEnd (f : Fragment) : bound (trimEnd f) = bound f := by
  simp [bound]

@[simp] lemma bound_clause (keyword : String) (f : Fragment) :
    bound (clause keyword f) = bound f := by
  simp [bound]

@[simp] lemma bound_listClause (keyword : String) (fs : List Fragment) :
    bound (listClause keyword fs) = fs.flatMap bound :=
  bound_of_effects (effects_listClause keyword fs)

@[simp] lemma bound_group (conjunction : Bool) (members : List (Bool × Fragment)) :
    bound (group conjunction members) = members.flatMap fun m => bound m.2 := by
  have heffects : effects (group conjunction members) =
      (members.map Prod.snd).flatMap effects := by
    rw [effects_group, List.flatMap_map]
  rw [bound_of_effects heffects, List.flatMap_map]

@[simp] lemma bound_whereClause (d : Dialect) (filter : Option Condition) :
    bound (whereClause d filter) = bound (filterFragment d filter) := by
  simp [bound]

/-! ### Predicates on values -/

variable {d : Dialect}

/-- A value that is no null gets its slot. -/
lemma map_piece_nonNull (column : String) (v : Value) :
    (Bindable.nonNull column v).map (Bindable.piece d) =
      if v.isNull then [] else [.slot (Binding.base column) v] := by
  unfold Bindable.nonNull
  split <;> rfl

/-- Fragments that bind one thing each. -/
lemma flatMap_bound_map {α : Type*} {items : List α} {f : α → Fragment} {g : α → Bindable}
    (h : ∀ a ∈ items, bound (f a) = [(g a).piece d]) :
    (items.map f).flatMap bound = (items.map g).map (Bindable.piece d) := by
  induction items with
  | nil => rfl
  | cons a items ih =>
    rw [List.forall_mem_cons] at h
    rw [List.map_cons, List.flatMap_cons, h.1, ih h.2]
    rfl

/-- Slots for a list of values. -/
lemma flatMap_bound_slots (column : String) (values : List Value) :
    (values.map fun v => [Piece.slot column v]).flatMap bound =
      (values.map (Bindable.value column)).map (Bindable.piece d) :=
  flatMap_bound_map fun _ _ => rfl

/-- A null check binds nothing, so only the other values of a list are bound. -/
lemma flatMap_nonNull (column : String) (values : List Value) :
    values.flatMap (Bindable.nonNull column) =
      (values.filter (!·.isNull)).map (Bindable.value column) := by
  induction values with
  | nil => rfl
  | cons v values ih =>
    rw [List.flatMap_cons, ih]
    cases v <;> rfl

/-- A null in a list has no slot. -/
lemma bound_inList (column : String) (values : List Value) (negated : Bool) :
    bound (inList d column values negated) =
      (values.flatMap (Bindable.nonNull column)).map (Bindable.piece d) := by
  rw [flatMap_nonNull, ← flatMap_bound_slots]
  unfold inList ofEmptyList
  dsimp only
  split
  · rename_i hnil
    rw [hnil]
    split_ifs <;> rfl
  · rename_i v hone
    rw [hone]
    split_ifs <;> simp
  · split_ifs <;> simp

/-- Without a null, each cell of a row is compared with a slot. -/
lemma bound_equalsRow {columns : List String} {row : List Value} (h : .null ∉ row) :
    bound (equalsRow d columns row) =
      ((columns.zip row).map fun (column, v) => Bindable.value column v).map
        (Bindable.piece d) := by
  rw [equalsRow, bound_join]
  apply flatMap_bound_map
  rintro ⟨column, v⟩ hcell
  have hv : v.isNull = false := by
    cases v with
    | null => exact absurd (List.of_mem_zip hcell).2 h
    | _ => rfl
  simp [hv, Bindable.piece]

/-- Without a null, every cell of every row is bound, whether tuples are compared or columns. -/
lemma bound_inRows {columns : List String} {rows : List (List Value)} {negated : Bool}
    (h : error? (inRows d columns rows negated) = none) (hnull : ∀ row ∈ rows, .null ∉ row) :
    bound (inRows d columns rows negated) =
      (rows.flatMap fun row => (columns.zip row).map
        fun (column, v) => Bindable.value column v).map (Bindable.piece d) := by
  rw [List.map_flatMap]
  have hvalues : bound (inRowValues d columns rows negated) = rows.flatMap fun row =>
      ((columns.zip row).map fun (column, v) => Bindable.value column v).map
        (Bindable.piece d) := by
    simp only [inRowValues, bound_text_cons, bound_bracket, bound_join, List.flatMap_map]
    apply List.flatMap_congr
    intro row _
    rw [← List.flatMap_map]
    exact flatMap_bound_map fun _ _ => rfl
  have halternatives : (rows.map (equalsRow d columns)).flatMap bound = rows.flatMap fun row =>
      ((columns.zip row).map fun (column, v) => Bindable.value column v).map
        (Bindable.piece d) := by
    rw [List.flatMap_map]
    exact List.flatMap_congr fun row hrow => bound_equalsRow (hnull row hrow)
  have hexpanded : bound (inRowsExpanded d columns rows negated) =
      (rows.map (equalsRow d columns)).flatMap bound := by
    simp only [inRowsExpanded]
    split
    · rename_i row hrow
      rw [hrow]
      split <;> simp
    · split <;> simp [List.flatMap_map]
  unfold inRows at h ⊢
  split at h
  · simp at h
  · split_ifs with hempty
    · rw [List.isEmpty_iff.mp hempty]
      cases negated <;> rfl
    · exact hvalues
    · rw [hexpanded, halternatives]

/-- Values that are looked for as texts are bound as patterns. -/
lemma bound_like {op : LikeOp} {column : String} {values : List Value} {rawPattern : Bool}
    (h : error? (like d op column values rawPattern) = none) :
    bound (like d op column values rawPattern) = (values.map fun v =>
      Bindable.value column (.text (if rawPattern then v.display
        else Pattern.contains.apply v.display))).map (Bindable.piece d) := by
  have hvalues (hall : ∀ f ∈ values.map (likeValue d op column rawPattern), error? f = none) :
      (values.map (likeValue d op column rawPattern)).flatMap bound = (values.map fun v =>
        Bindable.value column (.text (if rawPattern then v.display
          else Pattern.contains.apply v.display))).map (Bindable.piece d) := by
    apply flatMap_bound_map
    intro v hv
    have herror := hall _ (List.mem_map_of_mem hv)
    unfold likeValue at herror ⊢
    dsimp only at herror ⊢
    split at herror
    · simp at herror
    · rename_i hnull
      rw [if_neg hnull]
      cases rawPattern <;> rfl
  unfold like at h ⊢
  split at h
  · rename_i hnil
    rw [List.map_eq_nil_iff.mp hnil]
    unfold ofEmptyList
    split <;> rfl
  · rename_i one hone
    rw [hone] at hvalues
    rw [← hvalues (by simpa using h)]
    simp
  · rename_i several hseveral
    rw [error?_bracket, error?_join] at h
    rw [bound_bracket, bound_join, hvalues h]

/-! ### Lookups -/

lemma bound_likePattern (field : String) (ignoreCase : Bool) (pattern : Value) :
    bound (likePattern d field ignoreCase pattern) = [.slot (Binding.base field) pattern] := by
  cases d <;> cases ignoreCase <;> rfl

/-- A part of a date is bound as the number that the dialect counts by, if there is one. -/
lemma bound_datePart {p : DatePart} {field : String} {v : Value}
    (h : error? (datePart d p field v) = none) :
    bound (datePart d p field v) = ((v.asInt?.map (Bindable.datePart field p)).toList).map
      (Bindable.piece d) := by
  unfold datePart at h ⊢
  cases hint : v.asInt? with
  | none => simp [hint, refuseLookup] at h
  | some n =>
    rw [hint] at h
    dsimp only at h ⊢
    split at h
    · simp [refuseLookup] at h
    · rename_i hn
      rw [if_neg hn]
      rfl

/-- A lookup that takes a single value binds it as it describes. -/
lemma bound_lookup_value {lookup : Lookup} {field : String} {v : Value}
    (h : error? (lookup.fragment d field (.value v)) = none) :
    bound (lookup.fragment d field (.value v)) =
      (lookup.bindablesOfValue field v).map (Bindable.piece d) := by
  cases lookup with
  | exact | iexact =>
    rw [Lookup.bindablesOfValue, map_piece_nonNull]
    cases v <;> rfl
  | gt | gte | lt | lte => rfl
  | contains | icontains | startsWith | istartsWith | endsWith | iendsWith =>
    cases v with
    | null => simp [Lookup.fragment, ofPattern, ofScalar, refuseLookup, Value.isNull] at h
    | _ => exact bound_likePattern ..
  | range => simp [Lookup.fragment, refuseLookup] at h
  | within => simp [Lookup.fragment, amongValues, Lookup.bindablesOfValue, Bindable.piece]
  | isNull =>
    simp only [Lookup.fragment, ofScalar, nullCheck] at h ⊢
    split at h
    · rfl
    · rfl
    · simp [refuseLookup] at h
  | regex | iregex =>
    cases d with
    | mssql => simp [Lookup.fragment, ofScalar, regex] at h
    | _ => rfl
  | part p => exact bound_datePart h
  | search => simp [Lookup.fragment] at h

/-- A lookup binds its operands under the name of its field. -/
lemma bound_lookup {lookup : Lookup} {field : String} {operand : Operand}
    (h : error? (lookup.fragment d field operand) = none) :
    bound (lookup.fragment d field operand) =
      (lookup.bindables field operand).map (Bindable.piece d) := by
  cases operand with
  | value v => exact bound_lookup_value h
  | list values =>
    cases lookup with
    | range =>
      simp only [Lookup.fragment] at h ⊢
      split at h
      · rename_i low high hvalues
        obtain rfl := Operand.list.inj hvalues
        rfl
      · simp [refuseLookup] at h
    | within =>
      simp only [Lookup.fragment, amongValues]
      split
      · rename_i hempty
        rw [List.isEmpty_iff.mp hempty]
        rfl
      · rw [bound_text_cons, bound_bracket, bound_join, flatMap_bound_slots]
        rfl
    | _ => simp [Lookup.fragment, ofPattern, ofScalar, refuseLookup] at h
  | query _ | expr _ =>
    cases lookup <;> simp [Lookup.fragment, ofPattern, ofScalar, refuseLookup] at h

/-- Under the quoted name of a field, a lookup binds what it does under the name. -/
lemma map_piece_bindables_quoteColumn (lookup : Lookup) (name : String) (operand : Operand) :
    (lookup.bindables (d.quoteColumn name) operand).map (Bindable.piece d) =
      (lookup.bindables name operand).map (Bindable.piece d) := by
  have hvalue (v : Value) : (Bindable.value (d.quoteColumn name) v).piece d =
      (Bindable.value name v).piece d := by
    rw [Bindable.piece, Bindable.piece, Binding.base_quoteColumn]
  cases operand with
  | value v =>
    cases lookup with
    | exact | iexact => cases v <;> simp [Lookup.bindables, Lookup.bindablesOfValue,
        Bindable.nonNull, Value.isNull, hvalue]
    | part p => cases hint : v.asInt? <;>
        simp [Lookup.bindables, Lookup.bindablesOfValue, Bindable.piece, hint]
    | _ => simp [Lookup.bindables, Lookup.bindablesOfValue, hvalue]
  | list values =>
    simp only [Lookup.bindables, List.map_map]
    exact List.map_congr_left fun v _ => hvalue v
  | query _ | expr _ => rfl

/-! ### Orderings and modifiers -/

lemma bound_orderBy (items : List OrderItem) :
    bound (orderBy d items) = (items.flatMap OrderItem.bindables).map (Bindable.piece d) := by
  have hitem (item : OrderItem) :
      bound (orderItem d item) = item.bindables.map (Bindable.piece d) := by
    cases item <;> rfl
  unfold orderBy
  split
  · rename_i h
    rw [List.isEmpty_iff.mp h]
    rfl
  · rw [bound_after, bound_join, List.flatMap_map, List.map_flatMap]
    exact List.flatMap_congr fun item _ => hitem item

lemma bound_distinct {x : Distinct} (h : error? (Fragment.distinct d x) = none) :
    bound (Fragment.distinct d x) = [] := by
  cases x with
  | no | all => rfl
  | on columns =>
    simp only [Fragment.distinct] at h ⊢
    split at h
    · rename_i hd
      rw [if_pos hd]
      rfl
    · simp at h

lemma bound_checkJoin {kind : JoinKind} (h : error? (checkJoin d kind) = none) :
    bound (checkJoin d kind) = [] := by
  unfold checkJoin at h ⊢
  split <;> simp_all

lemma bound_selectModifier (option : Option String) : bound (selectModifier option) = [] := by
  cases option with
  | none => rfl
  | some option =>
    rw [selectModifier]
    split <;> rfl

lemma bound_selectList (items : List SelectItem) :
    bound (selectList d items) = (selectFragments d items).flatMap bound := by
  unfold selectList
  cases items with
  | nil => rfl
  | cons item items => simp

end Fragment

end SqlCompose
