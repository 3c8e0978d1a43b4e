import Mathlib
import SqlCompose.Proofs.Number.Numeral
import SqlCompose.Schema.Catalog

/-!
# Casting twice

What a column makes of a value it leaves as it is: no type makes of a value one that it would read
in another way, and none makes the empty text, which would be null in some columns. So a default is
a value that its column leaves as it is, whether it was given or read from a catalog, and stays one
unless the column later admits null where it did not.
-/

namespace SqlCompose

/-! ### Texts of numbers -/

namespace Value

lemma display_int_ne (n : Int64) : (Value.int n).display ≠ "" := by
  intro h
  exact (Digits.isSigned_toString n.toInt).ne_nil (congrArg String.toList h)

lemma display_float_ne (x : Double) : (Value.float x).display ≠ "" := by
  intro h
  change x.plain = "" at h
  cases hx : x.isFinite with
  | true => exact (Double.isSigned_plain hx).ne_nil (congrArg String.toList h)
  | false =>
    rcases Double.plain_of_not_finite hx with hname | hname | hname <;>
      exact absurd (hname.symm.trans h) (by decide)

lemma display_bool_ne (b : Bool) : (Value.bool b).display ≠ "" := by cases b <;> decide

end Value

namespace ColumnSchema

/-! ### Types -/

/-- A value that is read, or left where it cannot be read, is read as itself the next time. -/
lemma getD_map_getD_map {α : Type} (read : Value → Option α) (make : α → Value)
    (h : ∀ a, read (make a) = some a) (v : Value) :
    ((read (((read v).map make).getD v)).map make).getD (((read v).map make).getD v) =
      ((read v).map make).getD v := by
  cases hv : read v with
  | none => rw [Option.map_none, Option.getD_none, hv]; rfl
  | some a => rw [Option.map_some, Option.getD_some, h]; rfl

/-- A value that has the type already is left as it is. -/
lemma castTo_castTo (kind : ColumnType) (v : Value) :
    castTo kind (castTo kind v) = castTo kind v := by
  cases kind with
  | boolean => exact getD_map_getD_map Value.asBool? .bool (fun _ => rfl) v
  | tinyInt | smallInt | integer | bigInt =>
    exact getD_map_getD_map Value.asInt? .int (fun _ => rfl) v
  | float | double => exact getD_map_getD_map Value.asFloat? .float (fun _ => rfl) v
  | decimal | money | char | string | text => cases v <;> rfl
  | binary | date | time | dateTime | timestamp | json => rfl

/-- A cast neither makes null nor the empty text. -/
lemma eq_of_castTo_eq {kind : ColumnType} {v w : Value} (hw : w = .null ∨ w = .text "")
    (h : castTo kind v = w) : v = w := by
  have hread {α : Type} (make : α → Value) (hmake : ∀ a, make a ≠ .null ∧ make a ≠ .text "")
      {read : Option α} (h : (read.map make).getD v = w) : v = w := by
    cases read with
    | none => exact h
    | some a =>
      obtain rfl : make a = w := h
      exact absurd hw (not_or.mpr (hmake a))
  have hdisplay {s : String} (hs : s ≠ "") (h : Value.text s = w) : v = w := by
    subst h
    rcases hw with hw | hw
    · cases hw
    · exact absurd (Value.text.inj hw) hs
  cases kind with
  | boolean => exact hread .bool (fun _ => ⟨nofun, nofun⟩) h
  | tinyInt | smallInt | integer | bigInt => exact hread .int (fun _ => ⟨nofun, nofun⟩) h
  | float | double => exact hread .float (fun _ => ⟨nofun, nofun⟩) h
  | decimal | money =>
    cases v with
    | int n => exact hdisplay (Value.display_int_ne n) h
    | float x => exact hdisplay (Value.display_float_ne x) h
    | _ => exact h
  | char | string | text =>
    cases v with
    | int n => exact hdisplay (Value.display_int_ne n) h
    | float x => exact hdisplay (Value.display_float_ne x) h
    | bool b => exact hdisplay (Value.display_bool_ne b) h
    | _ => exact h
  | binary | date | time | dateTime | timestamp | json => exact h

/-! ### Columns -/

variable {c c' : ColumnSchema} {v w : Value}

lemma typecast_null (c : ColumnSchema) : c.typecast .null = .null := rfl

/-- What a column makes of a value is null, or what its type makes of the value. -/
lemma typecast_eq (h : c.typecast v ≠ .null) : c.typecast v = castTo c.kind v := by
  unfold typecast at h ⊢
  split_ifs at h ⊢ with hnull hempty
  · exact absurd rfl h
  · exact absurd rfl h
  · rfl

/-- A column that admits null makes it of the empty text, unless it holds texts. -/
lemma typecast_of_ne (hnull : v ≠ .null)
    (hempty : c.allowNull = true → c.kind.isTextual = false → v ≠ .text "") :
    c.typecast v = castTo c.kind v := by
  have hv : v.isNull = false := by
    cases v with
    | null => exact absurd rfl hnull
    | _ => rfl
  unfold typecast
  rw [if_neg (by simp [hv]), if_neg]
  simp only [Bool.and_eq_true, Bool.not_eq_true', decide_eq_true_eq, not_and]
  exact fun ⟨hallow, htextual⟩ => hempty hallow htextual

/-- What a column makes of a value stays so in every column of the same type that does not admit
null, or that admits it as the first one does. -/
lemma typecast_typecast_of_le (hkind : c'.kind = c.kind)
    (hallow : c'.allowNull = true → c.allowNull = true) (v : Value) :
    c'.typecast (c.typecast v) = c.typecast v := by
  by_cases hnull : c.typecast v = .null
  · rw [hnull, typecast_null]
  have hcast := typecast_eq hnull
  rw [typecast_of_ne hnull, hcast, hkind, castTo_castTo]
  -- the empty text comes from the empty text only, and of that the first column makes null
  intro hallow' htextual hempty
  have hv : v = .text "" := eq_of_castTo_eq (.inr rfl) (hcast ▸ hempty)
  rw [hkind] at htextual
  subst hv
  apply hnull
  simp [typecast, Value.isNull, hallow hallow', htextual]

/-! ### Defaults -/

/-- The default of a column is a value that the column leaves as it is. -/
def HasCastDefault (c : ColumnSchema) : Prop := ∀ v, c.default = some v → c.typecast v = v

/-- A column of the same type and with the same default that admits null only if the other does. -/
structure Keeps (c' c : ColumnSchema) : Prop where
  kind : c'.kind = c.kind
  default : c'.default = c.default
  allowNull : c'.allowNull = true → c.allowNull = true

lemma Keeps.refl (c : ColumnSchema) : c.Keeps c := ⟨rfl, rfl, id⟩

/-- A default is fixed where the column makes it of some value. -/
lemma Keeps.hasCastDefault (h : c'.Keeps c) (hc : c.HasCastDefault) : c'.HasCastDefault := by
  intro v hv
  have hfixed : c.typecast v = v := hc v (h.default ▸ hv)
  rw [← hfixed]
  exact typecast_typecast_of_le h.kind h.allowNull v

/-- A default is cast where it is given. -/
lemma hasCastDefault_withDefault (c : ColumnSchema) (v : Value) :
    (c.withDefault v).HasCastDefault := by
  intro w hw
  obtain rfl : c.typecast v = w := Option.some.inj hw
  exact typecast_typecast_of_le rfl id v

inductive Call
  | asPrimaryKey
  | notNull
  | counting
  | withDefault (v : Value)

def Call.apply (c : ColumnSchema) : Call → ColumnSchema
  | .asPrimaryKey => c.asPrimaryKey
  | .notNull => c.notNull
  | .counting => c.counting
  | .withDefault v => c.withDefault v

/-- No call lets a column admit null where it did not, so each of them leaves a default that is
fixed. -/
lemma hasCastDefault_apply (hc : c.HasCastDefault) (call : Call) :
    (call.apply c).HasCastDefault := by
  cases call with
  | asPrimaryKey | notNull =>
    exact Keeps.hasCastDefault (c := c) ⟨rfl, rfl, fun h => absurd h Bool.false_ne_true⟩ hc
  | counting => exact Keeps.hasCastDefault (c := c) ⟨rfl, rfl, id⟩ hc
  | withDefault v => exact hasCastDefault_withDefault c v

/-- No call makes a default that has another type than the column. -/
lemma hasCastDefault_foldl (hc : c.HasCastDefault) (calls : List Call) :
    (calls.foldl Call.apply c).HasCastDefault := by
  induction calls generalizing c with
  | nil => exact hc
  | cons call calls ih => exact ih (hasCastDefault_apply hc call)

end ColumnSchema

/-! ### Catalogs -/

namespace Catalog

open ColumnSchema

variable {d : Dialect} {row : Row} {rows : List Row} {t t' : TableSchema}

lemma default_withSizes (c : ColumnSchema) : (withSizes d row c).default = c.default := by
  unfold withSizes
  split <;> rfl

/-- The default that a catalog reports is cast to the type of the column. -/
lemma hasCastDefault_column {c : ColumnSchema} {sequence : Option String}
    (h : column d row = .ok (c, sequence)) : c.HasCastDefault := by
  unfold column at h
  split at h
  · cases h
  · dsimp only at h
    split at h
    · obtain ⟨rfl, -⟩ := Prod.mk.inj (Except.ok.inj h)
      intro v hv
      rw [default_withSizes] at hv
      cases hv
    · split at h
      · obtain ⟨rfl, -⟩ := Prod.mk.inj (Except.ok.inj h)
        exact hasCastDefault_withDefault _ _
      · obtain ⟨rfl, -⟩ := Prod.mk.inj (Except.ok.inj h)
        intro v hv
        rw [default_withSizes] at hv
        cases hv

/-- Every column that is added to a table has a fixed default. -/
lemma hasCastDefault_addRows (ht : ∀ c ∈ t.columns, c.HasCastDefault)
    (h : addRows d t rows = .ok t') : ∀ c ∈ t'.columns, c.HasCastDefault := by
  induction rows generalizing t with
  | nil =>
    obtain rfl := Except.ok.inj h
    exact ht
  | cons row rows ih =>
    rw [addRows] at h
    split at h
    · cases h
    · rename_i c sequence hcolumn
      refine ih ?_ h
      intro c' hc'
      rcases List.mem_append.mp hc' with hc' | hc'
      · exact ht c' hc'
      · obtain rfl := List.mem_singleton.mp hc'
        exact hasCastDefault_column hcolumn

lemma hasCastDefault_table {name : String} {schema : Option String}
    (h : table d name schema rows = .ok t) : ∀ c ∈ t.columns, c.HasCastDefault := by
  unfold table at h
  split at h
  · cases h
  · exact hasCastDefault_addRows (fun c hc => absurd hc List.not_mem_nil) h

end Catalog

namespace ColumnSchema

/-- Casting is idempotent. A default that is given to a column, or that is read with the column from
a catalog, is a value that the column leaves as it is, whatever calls follow; and so does every
column of the same type and default that admits null only if the column does. -/
theorem typecast_typecast :
    (∀ (c : ColumnSchema) (v : Value), c.typecast (c.typecast v) = c.typecast v) ∧
    (∀ (c c' : ColumnSchema) (v : Value) (calls : List Call),
      c'.Keeps (calls.foldl Call.apply (c.withDefault v)) → c'.HasCastDefault) ∧
    ∀ (d : Dialect) (name : String) (schema : Option String) (rows : List Row) (t : TableSchema),
      Catalog.table d name schema rows = .ok t →
      ∀ c ∈ t.columns, ∀ (c' : ColumnSchema) (calls : List Call),
        c'.Keeps (calls.foldl Call.apply c) → c'.HasCastDefault := by
  refine ⟨fun c v => ?_, fun c c' v calls h => ?_,
    fun d name schema rows t ht c hc c' calls h => ?_⟩
  · exact typecast_typecast_of_le rfl id v
  · exact h.hasCastDefault (hasCastDefault_foldl (hasCastDefault_withDefault c v) calls)
  · exact h.hasCastDefault (hasCastDefault_foldl (Catalog.hasCastDefault_table ht c hc) calls)

/-- The row of a catalog for a column of integers with a default. -/
def numberRow : Row :=
  .ofList [("name", .text "n"), ("type", .text "bigint"), ("notnull", .int 1), ("pk", .int 0),
    ("dflt_value", .text "('42')")]

/-- A text becomes the default `42`, given or read, and stays it in a primary key. -/
theorem typecast_typecast_fortyTwo :
    let c := (new "n" .bigInt "bigint").withDefault (.text " 42 ")
    c.default = some (.int 42) ∧ c.asPrimaryKey.HasCastDefault ∧
      ∃ t, Catalog.table .sqlite "t" none [numberRow] = .ok t ∧
        t.columns.map (·.default) = [some (.int 42)] ∧ ∀ c ∈ t.columns, c.HasCastDefault := by
  intro c
  obtain ⟨-, hgiven, hread⟩ := typecast_typecast
  refine ⟨by decide +kernel, ?_, _, rfl, by decide +kernel, fun c hc => ?_⟩
  · exact hgiven (new "n" .bigInt "bigint") _ (.text " 42 ") [.asPrimaryKey] (.refl _)
  · exact hread .sqlite "t" none [numberRow] _ rfl c hc c [] (.refl c)

/-- The empty text is a default of a column of dates that does not admit null. Once the column
admits null, it is no longer fixed. -/
example :
    let c := (new "day" .date "date").notNull.withDefault (.text "")
    c.typecast (.text "") = .text "" ∧
      ({ c with allowNull := true } : ColumnSchema).typecast (.text "") = .null := by
  decide

end ColumnSchema

end SqlCompose
