import Mathlib
import SqlCompose.Proofs.Binding.Batch
import SqlCompose.Proofs.Outline.Write
import SqlCompose.Proofs.Parameters

/-!
# Columns that are set

An insert and an update set columns of a table. All that a schema does is to cast the values before
the statement is written. Two statements that differ in such casts alone have the same text and the
same names of parameters; they bind the same values exactly if the two casts agree.
-/

namespace SqlCompose

open Fragment

/-! ### Drafts of one outline -/

namespace Fragment

lemma error?_outline (f : Fragment) : error? (outline f) = error? f := by
  induction f with
  | nil => rfl
  | cons piece rest ih =>
    cases piece with
    | text s => exact ih
    | slot hint v => exact ih
    | supply params => exact ih
    | refusal e => rfl

end Fragment

/-- Lists of pairs from one list in which every name stands once are equal if their names are. -/
lemma eq_of_map_fst_eq {α β : Type*} {xs ys entries : List (α × β)} (hxs : xs ⊆ entries)
    (hys : ys ⊆ entries) (hnodup : (entries.map Prod.fst).Nodup)
    (h : xs.map Prod.fst = ys.map Prod.fst) : xs = ys := by
  induction xs generalizing ys with
  | nil => exact (List.map_eq_nil_iff.mp h.symm).symm
  | cons x xs ih =>
    cases ys with
    | nil => cases h
    | cons y ys =>
      obtain ⟨hname, hnames⟩ := List.cons.inj h
      rw [List.cons_subset] at hxs hys
      rw [List.inj_on_of_nodup_map hnodup hxs.1 hys.1 hname, ih hxs.2 hys.2 hnames]

lemma Params.eq_of_toList_eq {p q : Params} (h : p.toList = q.toList) : p = q := by
  obtain ⟨⟨entries, hnodup⟩⟩ := p
  obtain ⟨⟨entries', hnodup'⟩⟩ := q
  obtain rfl : entries = entries' := h
  rfl

namespace Builder

variable {b : Builder} {s t : Draft} {out out' : Built}

/-- Two statements with the same maps start from bindings that differ in nothing but values. -/
lemma startFor_alike (hmode : b.inlineValues = false) (hmaps : s.maps = t.maps) :
    (b.startFor s).Alike (b.startFor t) := by
  rw [startFor, startFor, s.suppliedNames_eq, t.suppliedNames_eq, hmaps]
  exact ⟨hmode, hmode, rfl, rfl, rfl⟩

/-- Drafts of one outline that come with the same maps have the same text, or are refused alike. -/
lemma map_sql_write_eq (hmode : b.inlineValues = false) (hmaps : s.maps = t.maps)
    (houtline : outline (s.fragment b.dialect b.schema) =
      outline (t.fragment b.dialect b.schema)) :
    (b.write s).map Built.sql = (b.write t).map Built.sql := by
  have hplaced : (b.placed s).map Prod.fst = (b.placed t).map Prod.fst :=
    ((startFor_alike hmode hmaps).write houtline).1
  have herror : error? (s.fragment b.dialect b.schema) =
      error? (t.fragment b.dialect b.schema) := by
    rw [← error?_outline, houtline, error?_outline]
  rw [write_eq_match, write_eq_match, herror, hplaced, ← fill_outline, houtline, fill_outline]
  cases error? (t.fragment b.dialect b.schema) <;> rfl

/-- They have the same parameters exactly if the same is bound for their values. -/
lemma allParams_eq_iff (hmode : b.inlineValues = false) (hmaps : s.maps = t.maps)
    (houtline : outline (s.fragment b.dialect b.schema) =
      outline (t.fragment b.dialect b.schema))
    (h : b.write s = .ok out) (h' : b.write t = .ok out') :
    out.allParams = out'.allParams ↔
      (s.fragment b.dialect b.schema).values.map (Binding.boundValue b.dialect) =
        (t.fragment b.dialect b.schema).values.map (Binding.boundValue b.dialect) := by
  let bound (s : Draft) : List (String × Value) :=
    (b.placed s).map fun e => (e.1, Binding.boundValue b.dialect e.2)
  have hvalues {s : Draft} {out : Built} (h : b.write s = .ok out) : (bound s).map Prod.snd =
      (s.fragment b.dialect b.schema).values.map (Binding.boundValue b.dialect) := by
    rw [← Binding.map_snd_placed (b := b.startFor s) (error?_eq_none_of_write h), List.map_map,
      List.map_map]
    rfl
  have hnames : (bound s).map Prod.fst = (bound t).map Prod.fst := by
    rw [List.map_map, List.map_map]
    exact ((startFor_alike hmode hmaps).write houtline).1
  have hparams {s : Draft} {out : Built} (h : b.write s = .ok out) {n : String} {v : Value} :
      (n, v) ∈ out.allParams.toList ↔
        (n, v) ∈ bound s ∨ (n, v) ∈ (Params.merged s.maps).toList := by
    rw [mem_allParams hmode h, List.mem_map]
    constructor
    · rintro (⟨w, hw, rfl⟩ | hmerged)
      · exact .inl ⟨_, hw, rfl⟩
      · exact .inr hmerged
    · rintro (⟨⟨n, w⟩, hw, hentry⟩ | hmerged)
      · obtain ⟨rfl, rfl⟩ := Prod.mk.inj hentry
        exact .inl ⟨w, hw, rfl⟩
      · exact .inr hmerged
  rw [← hvalues h, ← hvalues h']
  constructor
  · intro hout
    congr 1
    have hnodup : (out.allParams.toList.map Prod.fst).Nodup := out.allParams.nodup_names
    apply eq_of_map_fst_eq _ _ hnodup hnames
    · exact fun e he => (hparams h).mpr (.inl he)
    · rw [hout]
      exact fun e he => (hparams h').mpr (.inl he)
  · intro hbound
    have hsame : bound s = bound t :=
      (List.zip_of_prod hnames hbound).trans (List.zip_of_prod rfl rfl).symm
    have hkeys : out.allParams.names = out'.allParams.names := by
      rw [allParams_of_write h, allParams_of_write h']
      exact ((startFor_alike hmode hmaps).write houtline).2
    apply Params.eq_of_toList_eq
    apply eq_of_map_fst_eq _ (List.Subset.refl _) out'.allParams.nodup_names hkeys
    intro e he
    have hmem := (hparams h).mp he
    rw [hsame, hmaps] at hmem
    exact (hparams h').mpr hmem

end Builder

/-! ### Settings -/

/-- Cast the value that a column is set to. -/
def Operand.castBy (cast : Value → Value) : Operand → Operand
  | .value v => .value (cast v)
  | operand => operand

/-- Cast the values that columns are set to. -/
def castColumns (cast : String → Value → Value) (columns : List (String × Operand)) :
    List (String × Operand) :=
  columns.map fun (column, operand) => (column, operand.castBy (cast column))

/-- What the columns of a table are set to by an insert or an update. -/
inductive Setting
  | insert (columns : List (String × Operand))
  | update (columns : List (String × Operand)) (filter : Option Condition)

namespace Setting

def columns : Setting → List (String × Operand)
  | .insert columns | .update columns _ => columns

/-- The statement that sets the columns of a table. -/
def into (table : String) : Setting → Statement
  | .insert columns => .insert table columns
  | .update columns filter => .update table columns filter

/-- Cast the values that the columns are set to. -/
def castBy (cast : String → Value → Value) : Setting → Setting
  | .insert columns => .insert (castColumns cast columns)
  | .update columns filter => .update (castColumns cast columns) filter

end Setting

section

variable {d : Dialect} {schema : Option SchemaRegistry} {table : String}
  {cast cast' : String → Value → Value}

lemma map_fst_castColumns (columns : List (String × Operand)) :
    (castColumns cast columns).map Prod.fst = columns.map Prod.fst := by
  rw [castColumns, List.map_map]
  rfl

lemma isEmpty_castColumns (columns : List (String × Operand)) :
    (castColumns cast columns).isEmpty = columns.isEmpty := List.isEmpty_map

lemma mapsOfPairs_castColumns (columns : List (String × Operand)) :
    mapsOfPairs (castColumns cast columns) = mapsOfPairs columns := by
  induction columns with
  | nil => rfl
  | cons pair columns ih =>
    obtain ⟨column, operand⟩ := pair
    have hmaps : (operand.castBy (cast column)).maps = operand.maps := by
      cases operand <;> rfl
    exact congrArg₂ (· ++ ·) hmaps ih

lemma maps_into_castBy (w : Setting) : ((w.castBy cast).into table).maps = (w.into table).maps := by
  cases w with
  | insert columns => exact mapsOfPairs_castColumns columns
  | update columns filter => exact congrArg (· ++ _) (mapsOfPairs_castColumns columns)

/-- A schema casts what is assigned, and nothing else. -/
lemma assigned_castFor (column : String) (operand : Operand) :
    assigned d schema table column operand =
      assigned d none table column (operand.castBy (castFor schema table column)) := by
  cases operand <;> rfl

/-- A schema casts the values, and then they are written as without one. -/
lemma fragment_castBy (w : Setting) : (w.into table).fragment d schema =
    ((w.castBy (castFor schema table)).into table).fragment d none := by
  cases w with
  | insert columns =>
    simp only [Setting.into, Setting.castBy, Statement.fragment, isEmpty_castColumns,
      map_fst_castColumns]
    simp only [castColumns, List.map_map, Function.comp_def, ← assigned_castFor]
  | update columns filter =>
    simp only [Setting.into, Setting.castBy, Statement.fragment, isEmpty_castColumns]
    simp only [castColumns, List.map_map, Function.comp_def, ← assigned_castFor]

/-- With a schema, a statement is written as it is without one after the values are cast. -/
lemma build_castBy (b : Builder) (w : Setting) : b.build (w.into table) =
    ({ b with schema := none } : Builder).build
      ((w.castBy (castFor b.schema table)).into table) := by
  have hnames : ((w.castBy (castFor b.schema table)).into table).suppliedNames =
      (w.into table).suppliedNames := by
    rw [Statement.suppliedNames_eq, Statement.suppliedNames_eq, maps_into_castBy]
  rw [Builder.build, Builder.build, hnames, fragment_castBy]

/-- Casts change values only. -/
lemma outline_castBy (w : Setting) :
    Fragment.outline (((w.castBy cast).into table).fragment d none) =
      Fragment.outline (((w.castBy cast').into table).fragment d none) := by
  have hassigned (p : String × Operand) :
      Fragment.outline (assigned d none table p.1 (p.2.castBy (cast p.1))) =
        Fragment.outline (assigned d none table p.1 (p.2.castBy (cast' p.1))) := by
    cases p.2 <;> rfl
  cases w with
  | insert columns =>
    simp only [Setting.into, Setting.castBy, Statement.fragment, isEmpty_castColumns,
      map_fst_castColumns]
    split
    · rfl
    · simp only [outline_text_cons, outline_bracket, outline_join, castColumns, List.map_map,
        Function.comp_def, hassigned]
  | update columns filter =>
    simp only [Setting.into, Setting.castBy, Statement.fragment, isEmpty_castColumns]
    split
    · rfl
    · simp only [outline_text_cons, outline_append, outline_join, castColumns, List.map_map,
        Function.comp_def, hassigned]

/-! ### What is bound for a setting -/

lemma flatMap_eq_flatMap_iff {α β : Type*} {F G : α → List β} (xs : List α)
    (hlength : ∀ x, (F x).length = (G x).length) :
    xs.flatMap F = xs.flatMap G ↔ ∀ x ∈ xs, F x = G x := by
  refine ⟨fun h => ?_, List.flatMap_congr⟩
  induction xs with
  | nil => simp
  | cons x xs ih =>
    rw [List.flatMap_cons, List.flatMap_cons] at h
    obtain ⟨hx, hxs⟩ := List.append_inj h (hlength x)
    exact List.forall_mem_cons.mpr ⟨hx, ih hxs⟩

/-- The values of the condition of an update. -/
def Setting.filterValues (d : Dialect) : Setting → List Value
  | .insert _ => []
  | .update _ filter => values (whereClause d filter)

/-- The values of a statement that sets columns are those of the columns, then those of the
condition. -/
lemma values_into {w : Setting} (hcolumns : w.columns ≠ []) :
    values ((w.into table).fragment d none) =
      (w.columns.flatMap fun p => values (assigned d none table p.1 p.2)) ++ w.filterValues d := by
  cases w with
  | insert columns =>
    rw [Setting.columns] at hcolumns
    rw [Setting.into, Statement.fragment, if_neg (by simpa using hcolumns), values_text_cons,
      values_bracket, values_join, List.flatMap_map, Setting.filterValues, List.append_nil]
    rfl
  | update columns filter =>
    rw [Setting.columns] at hcolumns
    rw [Setting.into, Statement.fragment, if_neg (by simpa using hcolumns), values_text_cons,
      values_append, values_join, List.flatMap_map]
    rfl

/-- Two casts bind the same in a setting exactly if they agree on the values that it sets. -/
lemma map_values_castBy_eq_iff (table : String) (w : Setting) :
    (values (((w.castBy cast).into table).fragment d none)).map (Binding.boundValue d) =
        (values (((w.castBy cast').into table).fragment d none)).map (Binding.boundValue d) ↔
      ∀ column v, (column, .value v) ∈ w.columns →
        Binding.boundValue d (cast column v) = Binding.boundValue d (cast' column v) := by
  have hcast (cast : String → Value → Value) :
      (w.castBy cast).columns = castColumns cast w.columns := by cases w <;> rfl
  by_cases hcolumns : w.columns = []
  · have hsame : w.castBy cast = w.castBy cast' := by
      cases w <;> (rw [Setting.columns] at hcolumns; subst hcolumns; rfl)
    rw [hsame, hcolumns]
    exact iff_of_true rfl (by simp)
  have hvalues (cast : String → Value → Value) :
      (values (((w.castBy cast).into table).fragment d none)).map (Binding.boundValue d) =
        (w.columns.flatMap fun p => (values (assigned d none table p.1
          (p.2.castBy (cast p.1)))).map (Binding.boundValue d)) ++
        (w.filterValues d).map (Binding.boundValue d) := by
    have hne : (w.castBy cast).columns ≠ [] := by
      rw [hcast, castColumns, Ne, List.map_eq_nil_iff]
      exact hcolumns
    have hfilter : (w.castBy cast).filterValues d = w.filterValues d := by cases w <;> rfl
    rw [values_into hne, hfilter, List.map_append, hcast, castColumns, List.flatMap_map,
      List.map_flatMap]
  rw [hvalues, hvalues, List.append_left_inj, flatMap_eq_flatMap_iff]
  · constructor
    · intro h column v hv
      simpa [Operand.castBy, assigned, values, Piece.value?, castFor] using h _ hv
    · rintro h ⟨column, operand⟩ hmem
      cases operand with
      | value v =>
        simpa [Operand.castBy, assigned, values, Piece.value?, castFor] using h column v hmem
      | list | query | expr => rfl
  · rintro ⟨column, operand⟩
    cases operand <;> rfl

/-- Statements that differ in casts alone have the same text, or are refused alike. -/
lemma map_sql_build_castBy (w : Setting) :
    ((⟨d, none, false⟩ : Builder).build ((w.castBy cast).into table)).map Built.sql =
      ((⟨d, none, false⟩ : Builder).build ((w.castBy cast').into table)).map Built.sql :=
  Builder.map_sql_write_eq (b := ⟨d, none, false⟩) (s := .statement ((w.castBy cast).into table))
    (t := .statement ((w.castBy cast').into table)) rfl
    ((maps_into_castBy w).trans (maps_into_castBy w).symm) (outline_castBy w)

/-- They bind the same exactly if the casts agree on the values that are set. -/
lemma allParams_build_castBy_iff {w : Setting} {out out' : Built}
    (h : (⟨d, none, false⟩ : Builder).build ((w.castBy cast).into table) = .ok out)
    (h' : (⟨d, none, false⟩ : Builder).build ((w.castBy cast').into table) = .ok out') :
    out.allParams = out'.allParams ↔ ∀ column v, (column, .value v) ∈ w.columns →
      Binding.boundValue d (cast column v) = Binding.boundValue d (cast' column v) := by
  rw [← map_values_castBy_eq_iff table]
  exact Builder.allParams_eq_iff (b := ⟨d, none, false⟩)
    (s := .statement ((w.castBy cast).into table)) (t := .statement ((w.castBy cast').into table))
    rfl ((maps_into_castBy w).trans (maps_into_castBy w).symm) (outline_castBy w) h h'

end

end SqlCompose
