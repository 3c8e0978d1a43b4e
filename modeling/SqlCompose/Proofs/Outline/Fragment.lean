import Mathlib
import SqlCompose.Proofs.Outline.Basic
import SqlCompose.Proofs.Fragment.Query

/-!
# Outlines of fragments

The outline of a fragment keeps its texts, the hints of its slots and the names that it supplies.
A description that refuses nothing and its outline are written as fragments of the same outline: no
text in them depends on a value that the outline forgets.
-/

namespace SqlCompose

def Piece.outline : Piece → Piece
  | .slot hint _ => .slot hint .null
  | .supply params => .supply params.outline
  | piece => piece

namespace Fragment

def outline (f : Fragment) : Fragment := f.map Piece.outline

@[simp] lemma outline_nil : outline [] = [] := rfl

@[simp] lemma outline_append (f g : Fragment) : outline (f ++ g) = outline f ++ outline g :=
  List.map_append

@[simp] lemma outline_text_cons (s : String) (f : Fragment) :
    outline (.text s :: f) = .text s :: outline f := rfl

@[simp] lemma outline_slot_cons (hint : String) (v : Value) (f : Fragment) :
    outline (.slot hint v :: f) = .slot hint .null :: outline f := rfl

@[simp] lemma outline_supply_cons (params : Params) (f : Fragment) :
    outline (.supply params :: f) = .supply params.outline :: outline f := rfl

@[simp] lemma outline_refusal_cons (e : QueryError) (f : Fragment) :
    outline (.refusal e :: f) = .refusal e :: outline f := rfl

@[simp] lemma isBlank_outline (f : Fragment) : isBlank (outline f) = isBlank f := by
  rw [isBlank, outline, List.all_map]
  congr 1
  funext piece
  cases piece <;> rfl

/-! ### Compound fragments -/

@[simp] lemma outline_bracket (f : Fragment) : outline (bracket f) = bracket (outline f) := by
  simp [bracket]

@[simp] lemma outline_after (keyword : String) (f : Fragment) :
    outline (after keyword f) = after keyword (outline f) := rfl

@[simp] lemma outline_join (sep : String) (fs : List Fragment) :
    outline (join sep fs) = join sep (fs.map outline) := by
  unfold join
  induction fs with
  | nil => rfl
  | cons f fs ih =>
    cases fs with
    | nil => simp
    | cons g gs =>
      rw [List.intercalate_cons_cons, outline_append, outline_append, ih]
      simp [List.intercalate_cons_cons]

/-- Separators stand at the same places, since values are never blank. -/
lemma outline_joinFrom (sep : String) (started : Bool) (fs : List Fragment) :
    outline (joinFrom sep started fs) = joinFrom sep started (fs.map outline) := by
  induction fs generalizing started with
  | nil => rfl
  | cons f fs ih =>
    rw [List.map_cons, joinFrom, joinFrom, isBlank_outline]
    split
    · rw [outline_append, ih]
    · rw [outline_append, outline_append, ih]
      cases started <;> rfl

@[simp] lemma outline_joinNonBlank (sep : String) (fs : List Fragment) :
    outline (joinNonBlank sep fs) = joinNonBlank sep (fs.map outline) := outline_joinFrom ..

/-- Trimming stops at values, so it does not matter what they are. -/
lemma outline_trimReversed (f : Fragment) :
    outline (trimReversed f) = trimReversed (outline f) := by
  induction f with
  | nil => rfl
  | cons piece rest ih =>
    cases piece with
    | text s =>
      simp only [trimReversed, outline_text_cons]
      split
      · exact ih
      · rfl
    | supply params => simp [trimReversed, ih]
    | slot | refusal => rfl

@[simp] lemma outline_trimEnd (f : Fragment) : outline (trimEnd f) = trimEnd (outline f) := by
  have hreverse (g : Fragment) : outline g.reverse = (outline g).reverse := List.map_reverse
  rw [trimEnd, trimEnd, hreverse, outline_trimReversed, hreverse]

@[simp] lemma outline_clause (keyword : String) (f : Fragment) :
    outline (clause keyword f) = clause keyword (outline f) := by
  unfold clause
  rw [isBlank_outline]
  split <;> simp

@[simp] lemma outline_listClause (keyword : String) (fs : List Fragment) :
    outline (listClause keyword fs) = listClause keyword (fs.map outline) := by
  unfold listClause
  rw [List.isEmpty_map]
  split <;> simp

@[simp] lemma outline_group (conjunction : Bool) (members : List (Bool × Fragment)) :
    outline (group conjunction members) =
      group conjunction (members.map fun m => (m.1, outline m.2)) := by
  have halone : ((members.map fun m => (m.1, outline m.2)).filter fun m => !m.2.isBlank).length =
      (members.filter fun m => !m.2.isBlank).length := by
    rw [List.filter_map, List.length_map]
    simp [Function.comp_def]
  rw [group, group, outline_joinNonBlank, List.map_map, List.map_map, halone]
  congr 1
  apply List.map_congr_left
  intro m _
  obtain ⟨brackets, f⟩ := m
  simp only [Function.comp_apply, isBlank_outline]
  split <;> simp

/-! ### Predicates on values -/

/-- What a list is compared by depends on its nulls and its length only. -/
lemma outline_inList (d : Dialect) (column : String) (values : List Value) (negated : Bool) :
    outline (inList d column (values.map Value.outline) negated) =
      outline (inList d column values negated) := by
  have hany : (values.map Value.outline).any Value.isNull = values.any Value.isNull := by
    simp [List.any_map, Function.comp_def]
  have hfilter : (values.map Value.outline).filter (!·.isNull) =
      (values.filter (!·.isNull)).map Value.outline := by
    simp [List.filter_map, Function.comp_def]
  unfold inList
  simp only [hany, hfilter, List.isEmpty_map]
  generalize values.filter (!·.isNull) = members
  match members with
  | [] => rfl
  | [v] =>
    simp only [List.map_cons, List.map_nil]
    split <;> simp
  | v :: w :: vs =>
    simp only [List.map_cons]
    split <;> simp [Function.comp_def]

lemma outline_slots (columns : List String) (row : List Value) :
    ((columns.zip (row.map Value.outline)).map fun (column, v) =>
        outline [Piece.slot column v]) =
      (columns.zip row).map fun (column, v) => outline [Piece.slot column v] := by
  rw [List.zip_map_right, List.map_map]
  rfl

lemma outline_equalsRow (d : Dialect) (columns : List String) (row : List Value) :
    outline (equalsRow d columns (row.map Value.outline)) =
      outline (equalsRow d columns row) := by
  rw [equalsRow, equalsRow, outline_join, outline_join, List.map_map, List.map_map,
    List.zip_map_right, List.map_map]
  congr 1
  apply List.map_congr_left
  intro p _
  obtain ⟨column, v⟩ := p
  simp only [Function.comp_apply, Prod.map_apply, id_eq, Value.isNull_outline]
  split <;> simp

lemma outline_inRowValues (d : Dialect) (columns : List String) (rows : List (List Value))
    (negated : Bool) :
    outline (inRowValues d columns (rows.map (List.map Value.outline)) negated) =
      outline (inRowValues d columns rows negated) := by
  have htuple (row : List Value) :
      outline (bracket (join ", " ((columns.zip (row.map Value.outline)).map fun (column, v) =>
        [.slot column v]))) =
      outline (bracket (join ", " ((columns.zip row).map fun (column, v) =>
        [.slot column v]))) := by
    rw [outline_bracket, outline_bracket, outline_join, outline_join, List.map_map, List.map_map]
    exact congrArg (bracket ∘ join ", ") (outline_slots columns row)
  simp only [inRowValues, outline_text_cons, outline_bracket, outline_join, List.map_map]
  congr 3
  exact List.map_congr_left fun row _ => by simpa using htuple row

lemma outline_inRowsExpanded (d : Dialect) (columns : List String) (rows : List (List Value))
    (negated : Bool) :
    outline (inRowsExpanded d columns (rows.map (List.map Value.outline)) negated) =
      outline (inRowsExpanded d columns rows negated) := by
  match rows with
  | [] => rfl
  | [row] =>
    simp only [inRowsExpanded, List.map_cons, List.map_nil]
    split <;> simp [outline_equalsRow]
  | row :: row' :: rows =>
    simp only [inRowsExpanded, List.map_cons, List.map_map]
    split <;> simp [outline_equalsRow, Function.comp_def]

/-- A membership in rows depends on the nulls and the widths of its rows only. -/
lemma outline_inRows (d : Dialect) (columns : List String) (rows : List (List Value))
    (negated : Bool) :
    outline (inRows d columns (rows.map (List.map Value.outline)) negated) =
      outline (inRows d columns rows negated) := by
  have hfind : (rows.map (List.map Value.outline)).find? (fun row => row.length != columns.length) =
      (rows.find? fun row => row.length != columns.length).map (List.map Value.outline) := by
    simp [List.find?_map]
  unfold inRows
  rw [hfind]
  cases rows.find? fun row => row.length != columns.length with
  | some row => simp
  | none =>
    simp only [Option.map_none, List.isEmpty_map]
    split_ifs
    · rfl
    · exact outline_inRowValues ..
    · exact outline_inRowsExpanded ..

lemma outline_like (d : Dialect) (op : LikeOp) (column : String) (values : List Value)
    (rawPattern : Bool) :
    outline (like d op column (values.map Value.outline) rawPattern) =
      outline (like d op column values rawPattern) := by
  have hvalue (v : Value) : outline (likeValue d op column rawPattern v.outline) =
      outline (likeValue d op column rawPattern v) := by
    unfold likeValue
    simp only [Value.isNull_outline]
    split_ifs <;> rfl
  match values with
  | [] => rfl
  | [v] => exact hvalue v
  | v :: w :: values =>
    simp [like, hvalue, Function.comp_def]

/-! ### Lookups -/

/-- A lookup of a single value is written alike if each value is. -/
lemma outline_ofScalar {lookup : Lookup} {operand : Operand} {predicate : Value → Fragment}
    (h : ∀ v, outline (predicate v.outline) = outline (predicate v)) :
    outline (ofScalar lookup operand.outline predicate) =
      outline (ofScalar lookup operand predicate) := by
  cases operand with
  | value v => exact h v
  | list | query | expr => rfl

lemma outline_ofPattern (d : Dialect) (lookup : Lookup) (field : String) (pattern : Pattern)
    (ignoreCase : Bool) (operand : Operand) :
    outline (ofPattern d lookup field pattern ignoreCase operand.outline) =
      outline (ofPattern d lookup field pattern ignoreCase operand) := by
  apply outline_ofScalar
  intro v
  simp only [Value.isNull_outline]
  split
  · rfl
  · cases d <;> cases ignoreCase <;> rfl

lemma outline_amongValues (field : String) (values : List Value) :
    outline (amongValues field (values.map Value.outline)) =
      outline (amongValues field values) := by
  unfold amongValues
  rw [List.isEmpty_map]
  split <;> simp [Function.comp_def]

/-- A date part that is not refused is compared with a number that stands in no text. -/
lemma outline_datePart {d : Dialect} {part : DatePart} {field : String} {v : Value}
    (h : error? (datePart d part field v) = none) :
    outline (datePart d part field v.outline) = outline (datePart d part field v) := by
  have hnull : v.isNull = false := by
    cases v with
    | null => simp [datePart, Value.asInt?, refuseLookup] at h
    | _ => rfl
  have houtline : v.outline = .int 1 := by simp [Value.outline, hnull]
  have hone : outline (datePart d part field (.int 1)) =
      [.text (extraction d part field ++ " = "), .slot field .null] := by
    cases part <;> rfl
  rw [houtline, hone]
  unfold datePart at h ⊢
  dsimp only at h ⊢
  split at h
  · simp [refuseLookup] at h
  · split at h
    · simp [refuseLookup] at h
    · rename_i hrange
      rw [if_neg hrange]
      rfl

/-- Of its operand a null check needs the truth value, any other lookup the nulls only. -/
lemma outline_lookup {d : Dialect} {lookup : Lookup} {field : String} {operand : Operand}
    (h : error? (lookup.fragment d field operand) = none) :
    outline (lookup.fragment d field
      (if lookup = .isNull then operand.truth else operand.outline)) =
      outline (lookup.fragment d field operand) := by
  cases lookup with
  | contains | icontains | startsWith | istartsWith | endsWith | iendsWith =>
    exact outline_ofPattern ..
  | exact | iexact =>
    apply outline_ofScalar
    intro v
    cases v <;> rfl
  | gt | gte | lt | lte => exact outline_ofScalar fun v => rfl
  | range =>
    cases operand with
    | value | query | expr => rfl
    | list vs =>
      match vs with
      | [] | [_] | [_, _] | _ :: _ :: _ :: _ => rfl
  | within =>
    cases operand with
    | value v => exact outline_amongValues field [v]
    | list vs => exact outline_amongValues field vs
    | query | expr => rfl
  | isNull =>
    cases operand with
    | value v => simp [Lookup.fragment, Operand.truth, ofScalar, nullCheck]
    | list | query | expr => rfl
  | regex | iregex => exact outline_ofScalar fun v => by cases d <;> rfl
  | part p =>
    cases operand with
    | value v => exact outline_datePart h
    | list | query | expr => rfl
  | search => rfl

end Fragment

end SqlCompose
