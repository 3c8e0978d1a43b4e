import Mathlib
import SqlCompose.Schema.Catalog

/-!
# Keys of tables read from a catalog

The columns of a table that is read from a catalog are what the rows of the catalog say, one column
for each row, and the primary key has the name of each key column once. A catalog may describe a
column in several rows, of which not all say that it is in the key. A column is found by its name
where its first row stands, so the key and the columns agree exactly if the first row of each key
column says that it is one.
-/

namespace SqlCompose

namespace Catalog

variable {d : Dialect} {row : Row} {rows : List Row} {c : ColumnSchema} {cs : List ColumnSchema}
  {sequence : Option String} {t t' : TableSchema}

/-! ### Rows and columns -/

/-- The name of the column that a row describes. -/
def columnName? (row : Row) : Option String := cellText? row ["column_name", "field", "name"]

/-- A column is what a row says of it. -/
structure Describes (d : Dialect) (row : Row) (c : ColumnSchema) : Prop where
  name : columnName? row = some c.name
  kind : c.kind = .ofTypeName d (entry d row).typeName
  allowNull : c.allowNull = ((entry d row).allowNull && !(entry d row).isPrimaryKey)
  isPrimaryKey : c.isPrimaryKey = (entry d row).isPrimaryKey
  default : c.default = if (entry d row).autoIncrement then none
    else (defaultText? d (entry d row).rawDefault).map fun s => c.typecast (.text s)

lemma withSizes_eq (d : Dialect) (row : Row) (c : ColumnSchema) :
    ∃ size precision scale, withSizes d row c = { c with size, precision, scale } := by
  unfold withSizes
  split
  · exact ⟨_, _, _, rfl⟩
  · exact ⟨c.size, c.precision, c.scale, rfl⟩

/-- A column is made from what its row says. -/
lemma describes_of_column (h : column d row = .ok (c, sequence)) : Describes d row c := by
  unfold column at h
  split at h
  · cases h
  · rename_i name hname
    dsimp only at h
    obtain ⟨size, precision, scale, hsizes⟩ := withSizes_eq d row
      { ColumnSchema.ofTypeName d name (entry d row).typeName with
        allowNull := (entry d row).allowNull && !(entry d row).isPrimaryKey
        isPrimaryKey := (entry d row).isPrimaryKey
        autoIncrement := (entry d row).autoIncrement }
    rw [hsizes] at h
    split at h
    · rename_i hauto
      obtain ⟨rfl, -⟩ := Prod.mk.inj (Except.ok.inj h)
      exact ⟨hname, rfl, rfl, rfl, (if_pos hauto).symm⟩
    · rename_i hauto
      split at h
      · rename_i text htext
        obtain ⟨rfl, -⟩ := Prod.mk.inj (Except.ok.inj h)
        exact ⟨hname, rfl, rfl, rfl, by rw [if_neg hauto, htext]; rfl⟩
      · rename_i htext
        obtain ⟨rfl, -⟩ := Prod.mk.inj (Except.ok.inj h)
        exact ⟨hname, rfl, rfl, rfl, by rw [if_neg hauto, htext]; rfl⟩

/-- Only a row that names no column is refused. -/
lemma exists_column (h : columnName? row ≠ none) : ∃ p, column d row = .ok p := by
  obtain ⟨name, hname⟩ := Option.ne_none_iff_exists'.mp h
  unfold columnName? at hname
  rw [column, hname]
  dsimp only
  split
  · exact ⟨_, rfl⟩
  · split <;> exact ⟨_, rfl⟩

/-- Rows that each name a column are added, one column for each. -/
lemma exists_addRows (h : ∀ row ∈ rows, columnName? row ≠ none) (t : TableSchema) :
    ∃ t', addRows d t rows = .ok t' := by
  induction rows generalizing t with
  | nil => exact ⟨t, rfl⟩
  | cons row rows ih =>
    rw [List.forall_mem_cons] at h
    obtain ⟨⟨c, sequence⟩, hcolumn⟩ := exists_column (d := d) h.1
    rw [addRows, hcolumn]
    exact ih h.2 _

/-- The columns that are added are those of the rows, in order. -/
lemma forall₂_addRows (h : addRows d t rows = .ok t') :
    ∃ cs, List.Forall₂ (Describes d) rows cs ∧ t'.columns = t.columns ++ cs := by
  induction rows generalizing t with
  | nil =>
    obtain rfl := Except.ok.inj h
    exact ⟨[], .nil, (List.append_nil _).symm⟩
  | cons row rows ih =>
    rw [addRows] at h
    split at h
    · cases h
    · rename_i c sequence hcolumn
      obtain ⟨cs, hcs, hcolumns⟩ := ih h
      refine ⟨c :: cs, .cons (describes_of_column hcolumn) hcs, ?_⟩
      rw [hcolumns, TableSchema.addColumn, List.append_assoc]
      rfl

lemma addRows_of_table {name : String} {schema : Option String}
    (h : table d name schema rows = .ok t) : addRows d (.new name schema) rows = .ok t := by
  unfold table at h
  split at h
  · cases h
  · exact h

lemma exists_related {α β : Type} {R : α → β → Prop} {as : List α} {bs : List β} {a : α}
    (h : List.Forall₂ R as bs) (ha : a ∈ as) : ∃ b ∈ bs, R a b := by
  induction h with
  | nil => cases ha
  | cons hab _ ih =>
    rcases List.mem_cons.mp ha with rfl | ha
    · exact ⟨_, List.mem_cons_self, hab⟩
    · obtain ⟨b, hb, hrelated⟩ := ih ha
      exact ⟨b, List.mem_cons_of_mem _ hb, hrelated⟩

lemma exists_column_of_row (h : List.Forall₂ (Describes d) rows cs) (hrow : row ∈ rows) :
    ∃ c ∈ cs, Describes d row c := exists_related h hrow

lemma exists_row (h : List.Forall₂ (Describes d) rows cs) (hc : c ∈ cs) :
    ∃ row ∈ rows, Describes d row c := exists_related (List.Forall₂.flip h) hc

/-- The columns of a table are what the rows say, in order. -/
lemma forall₂_table {name : String} {schema : Option String}
    (h : table d name schema rows = .ok t) : List.Forall₂ (Describes d) rows t.columns := by
  obtain ⟨cs, hcs, hcolumns⟩ := forall₂_addRows (addRows_of_table h)
  obtain rfl : t.columns = cs := hcolumns
  exact hcs

end Catalog

/-! ### The names of key columns -/

namespace TableSchema

variable {d : Dialect} {rows : List Row} {t t' : TableSchema}

/-- The primary key has the name of each key column once, and no other name. -/
structure NamesKey (t : TableSchema) : Prop where
  nodup : t.primaryKey.Nodup
  mem_iff : ∀ n, n ∈ t.primaryKey ↔ ∃ c ∈ t.columns, c.name = n ∧ c.isPrimaryKey = true

/-- A column that is added keeps the primary key in step. -/
lemma NamesKey.addColumn (h : t.NamesKey) (c : ColumnSchema) : (t.addColumn c).NamesKey := by
  have hmem (n : String) : (∃ c' ∈ t.columns ++ [c], c'.name = n ∧ c'.isPrimaryKey = true) ↔
      n ∈ t.primaryKey ∨ (c.name = n ∧ c.isPrimaryKey = true) := by
    simp [h.mem_iff, or_and_right, exists_or]
  unfold TableSchema.addColumn
  split
  · rename_i hnew
    rw [Bool.and_eq_true, Bool.not_eq_true', ← Bool.not_eq_true, List.contains_iff_mem] at hnew
    refine ⟨?_, fun n => ?_⟩
    · have hconcat : (t.primaryKey.concat c.name).Nodup := h.nodup.concat hnew.2
      rwa [List.concat_eq_append] at hconcat
    · rw [hmem, List.mem_append, List.mem_singleton]
      simp [hnew.1, eq_comm]
  · rename_i hold
    rw [Bool.and_eq_true, Bool.not_eq_true', ← Bool.not_eq_true, List.contains_iff_mem, not_and,
      not_not] at hold
    refine ⟨h.nodup, fun n => ?_⟩
    rw [hmem, iff_self_or]
    rintro ⟨rfl, hkey⟩
    exact hold hkey

lemma namesKey_new (name : String) (schema : Option String) : (new name schema).NamesKey :=
  ⟨List.nodup_nil, fun n => by simp [new]⟩

lemma NamesKey.addRows (h : t.NamesKey) (ht' : Catalog.addRows d t rows = .ok t') :
    t'.NamesKey := by
  induction rows generalizing t with
  | nil =>
    obtain rfl := Except.ok.inj ht'
    exact h
  | cons row rows ih =>
    rw [Catalog.addRows] at ht'
    split at ht'
    · cases ht'
    · rename_i c sequence _
      have hnamed : ({ t with sequenceName := t.sequenceName.or sequence }).NamesKey :=
        ⟨h.nodup, h.mem_iff⟩
      exact ih (hnamed.addColumn c) ht'

end TableSchema

namespace Catalog

variable {d : Dialect} {row : Row} {rows : List Row} {c : ColumnSchema} {cs : List ColumnSchema}
  {t : TableSchema} {name n : String} {schema : Option String}

/-- The primary key of a table that is read from a catalog names its key columns. -/
lemma namesKey_table (h : table d name schema rows = .ok t) : t.NamesKey :=
  (TableSchema.namesKey_new name schema).addRows (addRows_of_table h)

/-- Whether the first row of a column says that it is a key column, if there is such a row. -/
def firstKey? (d : Dialect) (rows : List Row) (n : Option String) : Option Bool :=
  (rows.find? fun row => columnName? row == n).map fun row => (entry d row).isPrimaryKey

/-- The column that is found by a name is the one of the first row. -/
lemma map_find?_eq_firstKey? (h : List.Forall₂ (Describes d) rows cs) (n : String) :
    (cs.find? fun c => c.name == n).map (·.isPrimaryKey) = firstKey? d rows (some n) := by
  unfold firstKey?
  induction h with
  | nil => rfl
  | @cons row c _ _ hdescribes _ ih =>
    have hname : (columnName? row == some n) = (c.name == n) := by
      rw [hdescribes.name, Option.some_beq_some]
    rw [List.find?_cons, List.find?_cons, hname]
    cases c.name == n with
    | true => exact congrArg some hdescribes.isPrimaryKey
    | false => exact ih

/-- A key column stands for a row that says so. -/
lemma exists_keyColumn_iff (h : List.Forall₂ (Describes d) rows cs) :
    (∃ c ∈ cs, c.name = n ∧ c.isPrimaryKey = true) ↔
      ∃ row ∈ rows, columnName? row = some n ∧ (entry d row).isPrimaryKey = true := by
  constructor
  · rintro ⟨c, hc, rfl, hkey⟩
    obtain ⟨row, hrow, hdescribes⟩ := exists_row h hc
    exact ⟨row, hrow, hdescribes.name, hdescribes.isPrimaryKey ▸ hkey⟩
  · rintro ⟨row, hrow, hname, hkey⟩
    obtain ⟨c, hc, hdescribes⟩ := exists_column_of_row h hrow
    exact ⟨c, hc, Option.some.inj (hdescribes.name.symm.trans hname),
      hdescribes.isPrimaryKey.trans hkey⟩

/-- A column that is found is named in the key if it is a key column. -/
lemma mem_primaryKey_of_column? (h : t.NamesKey) (hfound : t.column? n = some c)
    (hkey : c.isPrimaryKey = true) : n ∈ t.primaryKey := by
  have hname : c.name = n := beq_iff_eq.mp (List.find?_some hfound :)
  exact (h.mem_iff n).mpr ⟨c, List.mem_of_find?_eq_some hfound, hname, hkey⟩

/-- The primary key of a table that is read from a catalog names no column twice, and none of its
columns admits null. Each key column that is found by its name is named in the key, and the columns
that are named in the key are found as key columns exactly if the first row of each key column says
that it is one. -/
theorem primaryKey_consistent_iff (h : table d name schema rows = .ok t) :
    ((∀ n, n ∈ t.primaryKey ↔ ∃ c, t.column? n = some c ∧ c.isPrimaryKey = true) ↔
      ∀ row ∈ rows, (entry d row).isPrimaryKey = true →
        firstKey? d rows (columnName? row) = some true) ∧
    (∀ n c, t.column? n = some c → c.isPrimaryKey = true → n ∈ t.primaryKey) ∧
    t.primaryKey.Nodup ∧ ∀ c ∈ t.columns, c.isPrimaryKey = true → c.allowNull = false := by
  have hcolumns := forall₂_table h
  have hkey := namesKey_table h
  have hfound (n : String) : (∃ c, t.column? n = some c ∧ c.isPrimaryKey = true) ↔
      firstKey? d rows (some n) = some true := by
    rw [← map_find?_eq_firstKey? hcolumns, Option.map_eq_some_iff]
    rfl
  have hnamed (n : String) : n ∈ t.primaryKey ↔
      ∃ row ∈ rows, columnName? row = some n ∧ (entry d row).isPrimaryKey = true :=
    (hkey.mem_iff n).trans (exists_keyColumn_iff hcolumns)
  refine ⟨⟨fun hall row hrow hpk => ?_, fun hall n => ⟨fun hn => ?_, fun ⟨c, hc, hpk⟩ => ?_⟩⟩,
    fun n c => mem_primaryKey_of_column? hkey, hkey.nodup, fun c hc hpk => ?_⟩
  · obtain ⟨c, -, hdescribes⟩ := exists_column_of_row hcolumns hrow
    rw [hdescribes.name]
    exact (hfound c.name).mp ((hall c.name).mp ((hnamed c.name).mpr
      ⟨row, hrow, hdescribes.name, hpk⟩))
  · obtain ⟨row, hrow, hname, hpk⟩ := (hnamed n).mp hn
    exact (hfound n).mpr (hname ▸ hall row hrow hpk)
  · exact mem_primaryKey_of_column? hkey hc hpk
  · obtain ⟨row, -, hdescribes⟩ := exists_row hcolumns hc
    rw [hdescribes.allowNull, ← hdescribes.isPrimaryKey, hpk, Bool.not_true, Bool.and_false]

/-- A column that has a row for its foreign key and then one for the primary key is named in the
key, but the column that is found by the name is no key column. -/
theorem primaryKey_consistent_iff_foreignKeyFirst :
    let row (isKey : Int64) : Row := .ofList [("column_name", .text "id"),
      ("data_type", .text "integer"), ("is_nullable", .text "NO"), ("is_pkey", .int isKey)]
    ∃ t, table .pgsql "t" none [row 0, row 1] = .ok t ∧ t.primaryKey = ["id"] ∧
      (t.column? "id").map (·.isPrimaryKey) = some false ∧
      ¬(∀ n, n ∈ t.primaryKey ↔ ∃ c, t.column? n = some c ∧ c.isPrimaryKey = true) := by
  intro row
  have hread : table .pgsql "t" none [row 0, row 1] = .ok _ := rfl
  obtain ⟨hiff, -⟩ := primaryKey_consistent_iff hread
  refine ⟨_, hread, by decide +kernel, by decide +kernel, mt hiff.mp ?_⟩
  intro hall
  have hfirst := hall (row 1) (by simp) (by decide +kernel)
  revert hfirst
  decide +kernel

end Catalog

end SqlCompose
