import Mathlib
import SqlCompose.Proofs.Modes
import SqlCompose.Proofs.Number.Numeral
import SqlCompose.Proofs.Quoting.Literal
import SqlCompose.Proofs.Schema.Setting

/-!
# Values in inline statements

In an inline statement each value that a column is set to stands as the literal of what the column
makes of it. It is a word for null or for a truth value, a numeral, or a quoted text that reads as
one literal; only floats that are not finite stand as a name, which is no literal.
-/

namespace SqlCompose

open Fragment

/-! ### Literals -/

/-- A text that is one literal of a dialect, whatever its escapes stand for. -/
inductive Dialect.IsLiteral (d : Dialect) : String → Prop
  | word {s : String} (h : s ∈ ["NULL", "0", "1", "TRUE", "FALSE"]) : IsLiteral d s
  | number {s : String} (h : Digits.IsSigned s.toList) : IsLiteral d s
  | text {s t : String} (h : ∀ meaning : Char → List Char, meaning '\\' = ['\\'] →
      d.readLiteral? meaning s.toList = some (t.toList, [])) : IsLiteral d s

/-- A float that is not finite. -/
def Value.IsNonFinite (v : Value) : Prop := ∃ x : Double, v = .float x ∧ x.isFinite = false

namespace Dialect

variable {d : Dialect} {v : Value}

/-- A quoted text is a literal, whatever stands in it. -/
lemma isLiteral_quoteText (d : Dialect) (s : String) : d.IsLiteral (d.quoteText s) := by
  apply IsLiteral.text (t := s)
  intro meaning hmeaning
  have hchars : (d.quoteText s).toList = '\'' :: (s.toList.flatMap d.literalChar ++ ['\'']) := by
    simp [quoteText]
  rw [hchars, readLiteral?, unquote?_flatMap (unquote?_literalChar hmeaning),
    unquote?_closing (by simp)]
  simp

/-- The literal of a value is one, unless the value is a float that is not finite. -/
lemma isLiteral_literal (h : ¬v.IsNonFinite) : d.IsLiteral (d.literal v) := by
  cases v with
  | null => exact .word List.mem_cons_self
  | bool b => exact .word (by cases d <;> cases b <;> decide)
  | int n => exact .number (Digits.isSigned_toString n.toInt)
  | float x =>
    cases hx : x.isFinite with
    | true => exact .number (Double.isSigned_plain hx)
    | false => exact absurd ⟨x, rfl, hx⟩ h
  | text s => exact isLiteral_quoteText d s
  | dateTime t => exact isLiteral_quoteText d t.text
  | date t => exact isLiteral_quoteText d t.text

/-- A float that is not finite is written as a bare word. -/
lemma literal_of_isNonFinite (h : v.IsNonFinite) : d.literal v ∈ ["NaN", "inf", "-inf"] := by
  obtain ⟨x, rfl, hx⟩ := h
  simpa [literal] using Double.plain_of_not_finite hx

/-- The name of a float that is not finite is neither a word nor a numeral nor a quoted text. -/
lemma not_isLiteral_of_mem {s : String} (hs : s ∈ ["NaN", "inf", "-inf"]) : ¬d.IsLiteral s := by
  have hletter : ∃ c ∈ s.toList, c ∈ ['N', 'n'] := by
    simp only [List.mem_cons, List.not_mem_nil, or_false] at hs
    rcases hs with rfl | rfl | rfl
    · exact ⟨'N', by decide, by decide⟩
    · exact ⟨'n', by decide, by decide⟩
    · exact ⟨'n', by decide, by decide⟩
  have hhead : s.toList.head? ≠ some '\'' := by
    simp only [List.mem_cons, List.not_mem_nil, or_false] at hs
    rcases hs with rfl | rfl | rfl <;> decide
  intro h
  cases h with
  | word h =>
    simp only [List.mem_cons, List.not_mem_nil, or_false] at hs h
    rcases hs with rfl | rfl | rfl <;> revert h <;> decide
  | number h =>
    obtain ⟨c, hc, hletter⟩ := hletter
    have hnumber := h.isDigit_or c hc
    rcases List.mem_pair.mp hletter with rfl | rfl <;> revert hnumber <;> decide
  | text h =>
    have hread := h (fun c => [c]) rfl
    unfold readLiteral? at hread
    split at hread
    · rename_i rest hchars
      rw [hchars] at hhead
      exact hhead rfl
    · cases hread

/-- What stands for a value is a literal unless the value is a float that is not finite. -/
lemma isLiteral_literal_iff : d.IsLiteral (d.literal v) ↔ ¬v.IsNonFinite :=
  ⟨fun h hv => not_isLiteral_of_mem (literal_of_isNonFinite hv) h, isLiteral_literal⟩

end Dialect

/-! ### Casts -/

namespace Value

variable {v : Value}

lemma isNonFinite_float {x : Double} : (Value.float x).IsNonFinite ↔ x.isFinite = false :=
  ⟨fun ⟨_, hx, h⟩ => Value.float.inj hx ▸ h, fun h => ⟨x, rfl, h⟩⟩

/-- A float that is not finite is neither a truth value nor an integer. -/
lemma IsNonFinite.asBool?_eq (h : v.IsNonFinite) : v.asBool? = none := by
  obtain ⟨x, rfl, -⟩ := h
  rfl

lemma IsNonFinite.asInt?_eq (h : v.IsNonFinite) : v.asInt? = none := by
  obtain ⟨x, rfl, hx⟩ := h
  cases x with
  | nan | infinite => rfl
  | finite => cases hx

lemma IsNonFinite.exists_asFloat? (h : v.IsNonFinite) :
    ∃ x, v.asFloat? = some x ∧ x.isFinite = false := by
  obtain ⟨x, rfl, hx⟩ := h
  exact ⟨x, rfl, hx⟩

/-- A value that is read as a float, or left where it is not one. -/
lemma isNonFinite_getD_map_float_iff : ((v.asFloat?.map .float).getD v).IsNonFinite ↔
    ∃ x, v.asFloat? = some x ∧ x.isFinite = false := by
  cases hv : v.asFloat? with
  | none =>
    refine iff_of_false (fun h => ?_) nofun
    obtain ⟨x, hx, -⟩ := IsNonFinite.exists_asFloat? (v := v) h
    cases hv.symm.trans hx
  | some y =>
    rw [Option.map_some, Option.getD_some, isNonFinite_float]
    exact ⟨fun h => ⟨y, rfl, h⟩, fun ⟨x, hx, h⟩ => Option.some.inj hx ▸ h⟩

/-- A value that is read as one that is finite, or left where it is none. -/
lemma isNonFinite_getD_map_iff {α : Type} (make : α → Value) (hmake : ∀ a, ¬(make a).IsNonFinite)
    {read : Value → Option α} (hread : v.IsNonFinite → read v = none) :
    (((read v).map make).getD v).IsNonFinite ↔ v.IsNonFinite := by
  cases hv : read v with
  | none => rfl
  | some a =>
    refine iff_of_false (hmake a) fun h => ?_
    rw [hread h] at hv
    cases hv

end Value

namespace ColumnSchema

variable {v : Value}

/-- A type of floats reads integers and texts as floats; a type of texts or of exact decimals keeps
the text of a float. Every other type leaves a float that is not finite as it is. -/
lemma isNonFinite_castTo_iff (kind : ColumnType) : (castTo kind v).IsNonFinite ↔
    (kind ∈ [.float, .double] ∧ ∃ x, v.asFloat? = some x ∧ x.isFinite = false) ∨
    (v.IsNonFinite ∧ kind ∉ [.decimal, .money, .char, .string, .text]) := by
  have hother (hfloat : kind ∉ [.float, .double])
      (htext : kind ∉ [.decimal, .money, .char, .string, .text])
      (h : (castTo kind v).IsNonFinite ↔ v.IsNonFinite) : (castTo kind v).IsNonFinite ↔
        (kind ∈ [.float, .double] ∧ ∃ x, v.asFloat? = some x ∧ x.isFinite = false) ∨
        (v.IsNonFinite ∧ kind ∉ [.decimal, .money, .char, .string, .text]) := by
    rw [h, and_iff_left htext, iff_false_intro hfloat, false_and, false_or]
  cases kind with
  | boolean =>
    exact hother (by decide) (by decide)
      (Value.isNonFinite_getD_map_iff .bool (fun _ => nofun) Value.IsNonFinite.asBool?_eq)
  | tinyInt | smallInt | integer | bigInt =>
    exact hother (by decide) (by decide)
      (Value.isNonFinite_getD_map_iff .int (fun _ => nofun) Value.IsNonFinite.asInt?_eq)
  | float | double =>
    rw [and_iff_right (by decide), castTo, Value.isNonFinite_getD_map_float_iff]
    exact ⟨.inl, Or.rec id fun h => Value.IsNonFinite.exists_asFloat? h.1⟩
  | decimal | money | char | string | text =>
    refine iff_of_false ?_ (by simp)
    rintro ⟨x, hx, -⟩
    cases v <;> cases hx
  | binary | date | time | dateTime | timestamp | json =>
    exact hother (by decide) (by decide) .rfl

/-- A column of floats reads integers and texts as floats; a column of texts or of exact decimals
keeps the text of a float. Every other column leaves a float that is not finite as it is. -/
lemma isNonFinite_typecast_iff (c : ColumnSchema) : (c.typecast v).IsNonFinite ↔
    (c.kind ∈ [.float, .double] ∧ ∃ x, v.asFloat? = some x ∧ x.isFinite = false) ∨
    (v.IsNonFinite ∧ c.kind ∉ [.decimal, .money, .char, .string, .text]) := by
  rw [← isNonFinite_castTo_iff]
  have hnull (h : v.asFloat? = none) : ¬(castTo c.kind v).IsNonFinite := by
    rw [isNonFinite_castTo_iff, h]
    rintro (⟨-, x, hx, -⟩ | ⟨hv, -⟩)
    · cases hx
    · obtain ⟨x, hx, -⟩ := hv.exists_asFloat?
      cases h.symm.trans hx
  unfold typecast
  split_ifs with hisNull hempty
  · cases v with
    | null => exact iff_of_false nofun (hnull rfl)
    | _ => cases hisNull
  · simp only [Bool.and_eq_true, decide_eq_true_eq] at hempty
    obtain ⟨-, rfl⟩ := hempty
    exact iff_of_false nofun (hnull (by decide +kernel))
  · rfl

end ColumnSchema

/-! ### Texts of inline statements -/

namespace Fragment

/-- The text of a fragment with the literal of each of its values. -/
def inlined (d : Dialect) : Fragment → String
  | .text s :: rest => s ++ inlined d rest
  | .slot _ v :: rest => d.literal v ++ inlined d rest
  | .supply _ :: rest => inlined d rest
  | .refusal _ :: _ | [] => ""

section

variable {d : Dialect} {f g : Fragment}

/-- Inline, a fragment is written with the literals of its values. -/
lemma fill_map_literal : f.fill (f.values.map d.literal) = f.inlined d := by
  induction f with
  | nil => rfl
  | cons piece rest ih =>
    cases piece with
    | text s => exact congrArg (s ++ ·) ih
    | slot hint v => exact congrArg (d.literal v ++ ·) ih
    | supply params => exact ih
    | refusal e => rfl

lemma inlined_append (h : f.error? = none) : (f ++ g).inlined d = f.inlined d ++ g.inlined d := by
  rw [← fill_map_literal, values_append, List.map_append, fill_append h (List.length_map _),
    fill_map_literal, fill_map_literal]

lemma inlined_text (s : String) : inlined d [.text s] = s := String.append_empty

lemma inlined_bracket (h : f.error? = none) :
    (bracket f).inlined d = "(" ++ f.inlined d ++ ")" := by
  rw [bracket, inlined, inlined_append h, inlined_text, String.append_assoc]

lemma inlined_join (sep : String) {fs : List Fragment} (h : ∀ f ∈ fs, error? f = none) :
    (join sep fs).inlined d = Text.join sep (fs.map (inlined d)) := by
  unfold join Text.join
  induction fs with
  | nil => rfl
  | cons f fs ih =>
    obtain ⟨hf, hfs⟩ := List.forall_mem_cons.mp h
    cases fs with
    | nil => simp
    | cons g fs =>
      rw [List.intercalate_cons_cons, inlined_append (by simpa using hf), inlined_append hf,
        inlined_text, ih hfs]
      exact String.intercalate_cons_cons.symm

end

/-- What stands inline for what a column is set to. -/
def operandText (d : Dialect) (schema : Option SchemaRegistry) (table column : String) :
    Operand → String
  | .value v => d.literal (castFor schema table column v)
  | operand => inlined d (assigned d schema table column operand)

lemma inlined_assigned {d : Dialect} {schema : Option SchemaRegistry} {table column : String}
    (operand : Operand) : inlined d (assigned d schema table column operand) =
      operandText d schema table column operand := by
  cases operand with
  | value v => exact String.append_empty
  | list | query | expr => rfl

end Fragment

namespace Setting

/-- The text before the columns that are set. -/
def head (d : Dialect) (table : String) : Setting → String
  | .insert columns =>
    "INSERT INTO " ++ d.quoteTable table ++ " " ++ nameList d (columns.map Prod.fst) ++ " VALUES ("
  | .update _ _ => "UPDATE " ++ d.quoteTable table ++ " SET "

/-- The text before what a column is set to. -/
def label (d : Dialect) (column : String) : Setting → String
  | .insert _ => ""
  | .update _ _ => d.quoteColumn column ++ "="

/-- The text after the columns that are set. -/
def tail (d : Dialect) : Setting → String
  | .insert _ => ")"
  | .update _ filter => inlined d (whereClause d filter)

variable {d : Dialect} {schema : Option SchemaRegistry} {table : String} {w : Setting}

/-- The text of a statement that sets columns, written inline. -/
lemma inlined_into (hcolumns : w.columns ≠ [])
    (herror : error? ((w.into table).fragment d schema) = none) :
    inlined d ((w.into table).fragment d schema) = w.head d table ++
      Text.join ", " (w.columns.map fun p =>
        w.label d p.1 ++ operandText d schema table p.1 p.2) ++ w.tail d := by
  cases w with
  | insert columns =>
    rw [Setting.columns] at hcolumns
    rw [into, Statement.fragment, if_neg (by simpa using hcolumns)] at herror ⊢
    rw [error?_text_cons, error?_bracket] at herror
    rw [inlined, inlined_bracket herror, inlined_join _ ((error?_join _ _).mp herror),
      List.map_map]
    simp only [Function.comp_def, inlined_assigned, head, label, tail, Setting.columns,
      String.empty_append, String.append_assoc]
    rfl
  | update columns filter =>
    rw [Setting.columns] at hcolumns
    rw [into, Statement.fragment, if_neg (by simpa using hcolumns)] at herror ⊢
    rw [error?_text_cons, error?_append, Option.or_eq_none_iff] at herror
    rw [inlined, inlined_append herror.1, inlined_join _ ((error?_join _ _).mp herror.1),
      List.map_map]
    simp only [Function.comp_def, inlined, inlined_assigned, head, label, tail, Setting.columns,
      String.append_assoc]

end Setting

namespace Fragment

variable {d : Dialect} {schema : Option SchemaRegistry} {table : String} {columns : List String}

/-- The text of the rows of a batch, written inline. -/
lemma inlined_batchRows (rows : List (List Value)) :
    inlined d (batchRows schema table columns rows) =
      Text.join ", " (rows.map fun row => tupleText ((columns.zip row).map fun p =>
        operandText d schema table p.1 (.value p.2))) := by
  have hslot (p : String × Value) : inlined d [.slot p.1 (castFor schema table p.1 p.2)] =
      operandText d schema table p.1 (.value p.2) := String.append_empty
  have hcells (row : List Value) : error? (join ", " ((columns.zip row).map fun p =>
      [.slot p.1 (castFor schema table p.1 p.2)])) = none := by
    rw [error?_join, List.forall_mem_map]
    exact fun p _ => rfl
  have hrow (row : List Value) : inlined d (bracket (join ", " ((columns.zip row).map
      fun p => [.slot p.1 (castFor schema table p.1 p.2)]))) =
        tupleText ((columns.zip row).map fun p => operandText d schema table p.1 (.value p.2)) := by
    rw [inlined_bracket (hcells row), inlined_join _ ((error?_join _ _).mp (hcells row)),
      List.map_map, tupleText]
    simp only [Function.comp_def, hslot]
  rw [batchRows, inlined_join, List.map_map]
  · exact congrArg _ (List.map_congr_left fun row _ => hrow row)
  · rw [List.forall_mem_map]
    exact fun row _ => (error?_bracket _).mpr (hcells row)

end Fragment

namespace Builder

variable {d : Dialect} {schema : Option SchemaRegistry}

/-- Inline, a statement is its text with a literal for each value, unless it is refused. -/
lemma map_sql_build_inline (s : Statement) :
    ((⟨d, schema, true⟩ : Builder).build s).map Built.sql =
      match error? (s.fragment d schema) with
      | some e => .error e
      | none => .ok (inlined d (s.fragment d schema)) := by
  let b : Builder := ⟨d, schema, true⟩
  have hwrite : b.build s = _ := write_eq_match (b := b) (s := .statement s)
  change (b.build s).map Built.sql = _
  cases he : error? (s.fragment d schema) with
  | some e =>
    have he' : error? ((Draft.statement s).fragment b.dialect b.schema) = some e := he
    rw [hwrite, he']
    rfl
  | none =>
    have he' : error? ((Draft.statement s).fragment b.dialect b.schema) = none := he
    have hnames : (b.placed (.statement s)).map Prod.fst =
        (s.fragment d schema).values.map d.literal :=
      Binding.placedNames_inline (b := b.startFor (.statement s)) rfl he
    rw [hwrite, he', hnames, ← fill_map_literal]
    rfl

/-- In place of each value of an inline statement that sets columns, or that inserts a batch of
rows, stands the literal of what the column makes of it. That is a word, a numeral or a quoted text
unless it is a float that is not finite; then it is the name of the float. A column of floats makes
one of every text that it reads so. -/
theorem inline_isLiteral_iff (d : Dialect) (schema : Option SchemaRegistry) (table : String) :
    (∀ w : Setting, w.columns ≠ [] →
      ((⟨d, schema, true⟩ : Builder).build (w.into table)).map Built.sql =
        match error? ((w.into table).fragment d schema) with
        | some e => .error e
        | none => .ok (w.head d table ++ Text.join ", " (w.columns.map fun p =>
            w.label d p.1 ++ operandText d schema table p.1 p.2) ++ w.tail d)) ∧
    (∀ columns rows, columns ≠ [] → rows ≠ [] →
      (∀ row ∈ rows, row.length = columns.length) →
      ((⟨d, schema, true⟩ : Builder).build (.batchInsert table columns rows)).map Built.sql =
        .ok (Statement.batchHead d table columns ++ Text.join ", " (rows.map fun row =>
          tupleText ((columns.zip row).map fun p =>
            operandText d schema table p.1 (.value p.2))))) ∧
    (∀ column v,
      (d.IsLiteral (operandText d schema table column (.value v)) ↔
        ¬(castFor schema table column v).IsNonFinite) ∧
      ((castFor schema table column v).IsNonFinite →
        operandText d schema table column (.value v) ∈ ["NaN", "inf", "-inf"])) ∧
    ∀ (c : ColumnSchema) (v : Value), (c.typecast v).IsNonFinite ↔
      (c.kind ∈ [.float, .double] ∧ ∃ x, v.asFloat? = some x ∧ x.isFinite = false) ∨
      (v.IsNonFinite ∧ c.kind ∉ [.decimal, .money, .char, .string, .text]) := by
  refine ⟨fun w hcolumns => ?_, fun columns rows hcolumns hrows hwidth => ?_, fun column v => ?_,
    fun c v => c.isNonFinite_typecast_iff⟩
  · rw [map_sql_build_inline]
    cases he : error? ((w.into table).fragment d schema) with
    | some e => rfl
    | none => exact congrArg Except.ok (Setting.inlined_into hcolumns he)
  · rw [map_sql_build_inline, error?_batch hcolumns hrows hwidth,
      Statement.fragment_batchInsert d schema table hcolumns hrows hwidth, inlined,
      inlined_batchRows]
  · exact ⟨Dialect.isLiteral_literal_iff, Dialect.literal_of_isNonFinite⟩

/-- What is known of one column of doubles of a table. -/
def doubleTable : TableSchema := (TableSchema.new "t" none).addColumn (.new "x" .double "double")

/-- Of the text of a name, a column of doubles makes a float that stands in the statement as a bare
name, in an insert and in a batch. -/
theorem inline_isLiteral_iff_nan :
    let b : Builder := ⟨.mysql, some ⟨[doubleTable]⟩, true⟩
    let w := Setting.insert [("x", .value (.text "nan"))]
    let rows : List (List Value) := [[.text "2.50"], [.text " nan "]]
    w.columns ≠ [] ∧ rows ≠ [] ∧ (∀ row ∈ rows, row.length = ["x"].length) ∧
      (b.build (w.into "t")).map Built.sql =
        .ok "INSERT INTO \x60t\x60 (\x60x\x60) VALUES (NaN)" ∧
      (b.build (.batchInsert "t" ["x"] rows)).map Built.sql =
        .ok "INSERT INTO \x60t\x60 (\x60x\x60) VALUES (2.5), (NaN)" ∧
      ¬Dialect.mysql.IsLiteral "NaN" := by
  intro b w rows
  have hrows : ∀ row ∈ rows, row.length = ["x"].length := by decide
  obtain ⟨hset, hbatch, hvalue, -⟩ := inline_isLiteral_iff .mysql (some ⟨[doubleTable]⟩) "t"
  refine ⟨List.cons_ne_nil _ _, List.cons_ne_nil _ _, hrows, ?_, ?_, fun h => ?_⟩
  · exact (hset w (List.cons_ne_nil _ _)).trans (by decide +kernel)
  · exact (hbatch ["x"] rows (List.cons_ne_nil _ _) (List.cons_ne_nil _ _) hrows).trans
      (by decide +kernel)
  · exact (hvalue "x" (.text "nan")).1.mp h ⟨.nan, by decide +kernel, rfl⟩

end Builder

end SqlCompose
