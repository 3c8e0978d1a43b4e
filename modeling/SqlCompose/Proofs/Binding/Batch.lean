import Mathlib
import SqlCompose.Proofs.Placeholders

/-!
# Batches of rows

The fragment of a batch has one slot for each cell, row after row, and texts between the slots. What
is placed in it is cut into rows again by their widths: the text shows the placeholders of each row
in parentheses, and the parameters are the cells of all rows, one row after the other.
-/

namespace SqlCompose

open Fragment

/-! ### Fragments with a text for each slot -/

namespace Fragment

lemma values_append (f g : Fragment) : values (f ++ g) = values f ++ values g :=
  List.filterMap_append

lemma values_text_cons (s : String) (f : Fragment) : values (.text s :: f) = values f := rfl

lemma values_effects (f : Fragment) : values (effects f) = values f := by
  unfold values effects
  rw [List.filterMap_filter]
  congr 1
  funext p
  cases p <;> rfl

lemma values_bracket (f : Fragment) : values (bracket f) = values f := by
  rw [← values_effects, effects_bracket, values_effects]

lemma values_join (sep : String) (fs : List Fragment) :
    values (join sep fs) = fs.flatMap values := by
  rw [← values_effects, effects_join, values, List.filterMap_flatMap]
  exact List.flatMap_congr fun f _ => values_effects f

/-- A fragment refuses nothing, and with one text for each of its slots it is written so. -/
structure FilledAs (f : Fragment) (texts : List String) (written : String) : Prop where
  error : f.error? = none
  length : texts.length = f.values.length
  fill : f.fill texts = written

section

variable {f g : Fragment} {texts more : List String} {s t sep : String}

/-- Texts for one fragment and then for another fill the two one after the other. -/
lemma fill_append (herror : f.error? = none) (hlength : texts.length = f.values.length) :
    (f ++ g).fill (texts ++ more) = f.fill texts ++ g.fill more := by
  induction f generalizing texts with
  | nil =>
    obtain rfl : texts = [] := List.length_eq_zero_iff.mp hlength
    simp [fill]
  | cons piece rest ih =>
    cases piece with
    | text s => rw [List.cons_append, fill, fill, ih herror hlength, String.append_assoc]
    | slot hint v =>
      cases texts with
      | nil => cases hlength
      | cons text texts =>
        have hrest := ih herror (Nat.succ.inj hlength)
        rw [List.cons_append, List.cons_append, fill, fill, hrest, String.append_assoc]
    | supply params => exact ih herror hlength
    | refusal e => cases herror

lemma FilledAs.append (hf : f.FilledAs texts s) (hg : g.FilledAs more t) :
    (f ++ g).FilledAs (texts ++ more) (s ++ t) where
  error := by rw [error?_append, hf.error, hg.error]; rfl
  length := by rw [List.length_append, values_append, List.length_append, hf.length, hg.length]
  fill := by rw [fill_append hf.error hf.length, hf.fill, hg.fill]

lemma FilledAs.text (s : String) : FilledAs [.text s] [] s := ⟨rfl, rfl, String.append_empty⟩

lemma FilledAs.slot (hint : String) (v : Value) (text : String) :
    FilledAs [.slot hint v] [text] text := ⟨rfl, rfl, String.append_empty⟩

lemma FilledAs.bracket (h : f.FilledAs texts s) : f.bracket.FilledAs texts ("(" ++ s ++ ")") := by
  have hwhole := ((FilledAs.text "(").append h).append (.text ")")
  rwa [List.append_nil] at hwhole

/-- Joined fragments are filled one after the other. -/
lemma FilledAs.join (sep : String) {fs : List Fragment} {textss : List (List String)}
    {print : List String → String}
    (h : List.Forall₂ (fun f texts => f.FilledAs texts (print texts)) fs textss) :
    (join sep fs).FilledAs textss.flatten (Text.join sep (textss.map print)) := by
  unfold Fragment.join Text.join
  induction h with
  | nil => exact ⟨rfl, rfl, rfl⟩
  | @cons f texts fs textss hf hrest ih =>
    cases hrest with
    | nil => simpa using hf
    | @cons g texts' fs textss hg hrest =>
      have hwhole := (hf.append (.text sep)).append ih
      rw [List.append_nil] at hwhole
      rw [List.intercalate_cons_cons]
      rwa [List.map_cons, List.map_cons, String.intercalate_cons_cons, ← List.map_cons]

end

/-! ### Rows of slots -/

/-- The slots of a row, in parentheses. -/
def slotTuple (slots : List (String × Value)) : Fragment :=
  bracket (join ", " (slots.map fun (hint, v) => [.slot hint v]))

/-- A row of texts, in parentheses. -/
def tupleText (texts : List String) : String := "(" ++ Text.join ", " texts ++ ")"

/-- The slots for the cells of a row. -/
def rowSlots (schema : Option SchemaRegistry) (table : String) (columns : List String)
    (row : List Value) : List (String × Value) :=
  (columns.zip row).map fun (column, v) => (column, castFor schema table column v)

/-- What is bound for the cells of a row. -/
def rowValues (d : Dialect) (schema : Option SchemaRegistry) (table : String)
    (columns : List String) (row : List Value) : List Value :=
  (columns.zip row).map fun (column, v) => Binding.boundValue d (castFor schema table column v)

section

variable {d : Dialect} {schema : Option SchemaRegistry} {table : String} {columns : List String}
  {rows : List (List Value)}

lemma length_rowSlots (row : List Value) :
    (rowSlots schema table columns row).length =
      (rowValues d schema table columns row).length := by
  rw [rowSlots, rowValues, List.length_map, List.length_map]

lemma values_slotTuple (slots : List (String × Value)) :
    values (slotTuple slots) = slots.map Prod.snd := by
  rw [slotTuple, values_bracket, values_join, List.flatMap_map]
  exact List.map_eq_flatMap.symm

lemma slotTuple_filledAs {slots : List (String × Value)} {texts : List String}
    (h : texts.length = slots.length) : (slotTuple slots).FilledAs texts (tupleText texts) := by
  have hslots : List.Forall₂ (fun f texts => FilledAs f texts (String.join texts))
      (slots.map fun (hint, v) => [Piece.slot hint v]) (texts.map fun text => [text]) := by
    rw [List.forall₂_map_left_iff, List.forall₂_map_right_iff, List.forall₂_iff_zip]
    refine ⟨h.symm, fun {slot text} _ => ?_⟩
    simpa [String.join] using FilledAs.slot slot.1 slot.2 text
  have hjoin := FilledAs.join ", " hslots
  rw [← List.flatMap_def, List.flatMap_singleton', List.map_map] at hjoin
  have hsame : texts.map (String.join ∘ fun text => [text]) = texts := by
    simp [Function.comp_def, String.join]
  rw [hsame] at hjoin
  exact hjoin.bracket

/-- The rows of a batch are the tuples of their slots. -/
lemma batchRows_eq : batchRows schema table columns rows =
    join ", " (rows.map fun row => slotTuple (rowSlots schema table columns row)) := by
  simp only [batchRows, slotTuple, rowSlots, List.map_map]
  rfl

lemma values_batchRows : values (batchRows schema table columns rows) =
    rows.flatMap fun row => (rowSlots schema table columns row).map Prod.snd := by
  simp only [batchRows_eq, values_join, List.flatMap_map, values_slotTuple]

lemma error?_batchRows : error? (batchRows schema table columns rows) = none := by
  rw [batchRows_eq, error?_join]
  intro f hf
  obtain ⟨row, -, rfl⟩ := List.mem_map.mp hf
  exact (slotTuple_filledAs (List.length_map Prod.fst)).error

/-- The rows of a batch are written with the names of its cells. -/
lemma batchRows_filledAs {cells : List (List (String × Value))}
    (hcells : cells.map (List.map Prod.snd) = rows.map (rowValues d schema table columns)) :
    (batchRows schema table columns rows).FilledAs (cells.flatten.map Prod.fst)
      (Text.join ", " (cells.map fun row => tupleText (row.map Prod.fst))) := by
  have hrows : List.Forall₂ (· = ·) (rows.map (rowValues d schema table columns))
      (cells.map (List.map Prod.snd)) := by rw [List.forall₂_eq_eq_eq, hcells]
  rw [List.forall₂_map_left_iff, List.forall₂_map_right_iff] at hrows
  have hfilled : (batchRows schema table columns rows).FilledAs
      (cells.map (List.map Prod.fst)).flatten
      (Text.join ", " ((cells.map (List.map Prod.fst)).map tupleText)) := by
    rw [batchRows_eq]
    apply FilledAs.join
    rw [List.forall₂_map_left_iff, List.forall₂_map_right_iff]
    refine hrows.imp fun row cells h => slotTuple_filledAs ?_
    rw [length_rowSlots (d := d), h, List.length_map, List.length_map]
  rwa [← List.map_flatten, List.map_map] at hfilled

end

end Fragment

/-! ### Batches -/

/-- A batch written with a head before its rows: the text has the placeholders of each row in
parentheses, every cell has a placeholder of its own with its value, and nothing else is bound. -/
structure Built.IsBatch (out : Built) (head : String) (cells : List (List (String × Value))) :
    Prop where
  sql : out.sql = head ++ Text.join ", " (cells.map fun row => tupleText (row.map Prod.fst))
  params : out.allParams.toList = cells.flatten
  nodup : (cells.flatten.map Prod.fst).Nodup
  placeholder : ∀ cell ∈ cells.flatten, IsPlaceholder cell.1

namespace Statement

variable {columns : List String} {rows : List (List Value)} {n : ℕ}

/-- Rows that all have the width of the columns have no misfit among them. -/
lemma findMisfit_eq_none (h : ∀ row ∈ rows, row.length = columns.length) :
    findMisfit columns.length n rows = none := by
  induction rows generalizing n with
  | nil => rfl
  | cons row rows ih =>
    rw [List.forall_mem_cons] at h
    rw [findMisfit, if_pos h.1, ih h.2]

/-- The first misfit comes with its place. -/
lemma findMisfit_append {earlier later : List (List Value)} {row : List Value}
    (hearlier : ∀ r ∈ earlier, r.length = columns.length) (hrow : row.length ≠ columns.length) :
    findMisfit columns.length n (earlier ++ row :: later) = some (n + earlier.length, row) := by
  induction earlier generalizing n with
  | nil => rw [List.nil_append, findMisfit, if_neg hrow]; rfl
  | cons r earlier ih =>
    rw [List.forall_mem_cons] at hearlier
    rw [List.cons_append, findMisfit, if_pos hearlier.1, ih hearlier.2, List.length_cons,
      Nat.add_right_comm, Nat.add_assoc]

/-- The text of a batch before its rows. -/
def batchHead (d : Dialect) (table : String) (columns : List String) : String :=
  "INSERT INTO " ++ d.quoteTable table ++ " " ++ nameList d columns ++ " VALUES "

/-- A batch of rows that fit is its head and then its rows. -/
lemma fragment_batchInsert (d : Dialect) (schema : Option SchemaRegistry) (table : String)
    (hcolumns : columns ≠ []) (hrows : rows ≠ [])
    (hwidth : ∀ row ∈ rows, row.length = columns.length) :
    (batchInsert table columns rows).fragment d schema =
      .text (batchHead d table columns) :: batchRows schema table columns rows := by
  rw [fragment, if_neg (by simpa using hcolumns), if_neg (by simpa using hrows),
    findMisfit_eq_none hwidth, batchHead]

/-- The pairs of a row as they are given to an insert. -/
def rowPairs (columns : List String) (row : List Value) : List (String × Operand) :=
  (columns.zip row).map fun (column, v) => (column, .value v)

lemma namesOfPairs_rowPairs (columns : List String) (row : List Value) :
    namesOfPairs (rowPairs columns row) = [] := by
  unfold rowPairs
  induction columns.zip row with
  | nil => rfl
  | cons pair pairs ih => exact ih

/-- A batch of one row is the insert of its pairs. -/
lemma build_batchInsert_singleton (b : Builder) (table : String) (hcolumns : columns ≠ [])
    {row : List Value} (hrow : row.length = columns.length) :
    b.build (.batchInsert table columns [row]) =
      b.build (.insert table (rowPairs columns row)) := by
  have hfragment : (batchInsert table columns [row]).fragment b.dialect b.schema =
      (insert table (rowPairs columns row)).fragment b.dialect b.schema := by
    have hnames : (rowPairs columns row).map Prod.fst = columns := by
      rw [rowPairs, List.map_map]
      exact List.map_fst_zip hrow.ge
    have hne : rowPairs columns row ≠ [] := by
      rintro h
      exact hcolumns (by rw [← hnames, h]; rfl)
    rw [fragment_batchInsert _ _ _ hcolumns (List.cons_ne_nil _ _) (by simpa using hrow), fragment,
      if_neg (by simpa using hne), hnames]
    simp only [batchRows, rowPairs, List.map_map, List.map_singleton, join,
      List.intercalate_singleton]
    rfl
  rw [Builder.build, Builder.build, hfragment]
  congr 1
  exact (namesOfPairs_rowPairs columns row).symm

end Statement

namespace Builder

open Statement

variable {d : Dialect} {schema : Option SchemaRegistry} {table : String} {columns : List String}
  {rows : List (List Value)}

lemma error?_batch (hcolumns : columns ≠ []) (hrows : rows ≠ [])
    (hwidth : ∀ row ∈ rows, row.length = columns.length) :
    error? ((batchInsert table columns rows).fragment d schema) = none := by
  rw [fragment_batchInsert d schema table hcolumns hrows hwidth]
  exact error?_batchRows

/-- The values of a batch are bound row after row. -/
lemma map_snd_allParams {out : Built} (hcolumns : columns ≠ []) (hrows : rows ≠ [])
    (hwidth : ∀ row ∈ rows, row.length = columns.length)
    (hout : (⟨d, schema, false⟩ : Builder).build (.batchInsert table columns rows) = .ok out) :
    out.allParams.toList.map Prod.snd = (rows.map (rowValues d schema table columns)).flatten := by
  let b : Builder := ⟨d, schema, false⟩
  let s : Draft := .statement (.batchInsert table columns rows)
  have hfragment : s.fragment d schema = _ :=
    fragment_batchInsert d schema table hcolumns hrows hwidth
  have hplaced : (b.placed s).map Prod.snd = values (s.fragment d schema) :=
    Binding.map_snd_placed (error?_batch hcolumns hrows hwidth)
  have hbound := toList_allParams (b := b) (s := s) rfl hout rfl
  calc out.allParams.toList.map Prod.snd
      = ((b.placed s).map Prod.snd).map (Binding.boundValue d) := by
        rw [hbound, List.map_map, List.map_map]
        rfl
    _ = (values (batchRows schema table columns rows)).map (Binding.boundValue d) := by
        rw [hplaced, hfragment]
        rfl
    _ = (rows.map (rowValues d schema table columns)).flatten := by
        rw [values_batchRows, List.map_flatMap, List.flatMap_def]
        simp only [rowSlots, List.map_map]
        rfl

/-- A list whose values are some rows put together is itself some rows put together. -/
lemma exists_cells {entries : List (String × Value)} {valuess : List (List Value)}
    (h : entries.map Prod.snd = valuess.flatten) :
    ∃ cells : List (List (String × Value)),
      cells.flatten = entries ∧ cells.map (List.map Prod.snd) = valuess := by
  have hsum : (valuess.map List.length).sum = entries.length := by
    rw [← List.length_map Prod.snd, h, List.length_flatten]
  let cells := (valuess.map List.length).splitLengths entries
  have hflatten : cells.flatten = entries := List.flatten_splitLengths _ _ hsum.ge
  have hlengths : cells.map List.length = valuess.map List.length :=
    List.map_splitLengths_length _ _ hsum.le
  refine ⟨cells, hflatten, List.eq_iff_flatten_eq.mpr ⟨?_, ?_⟩⟩
  · rw [← List.map_flatten, hflatten, h]
  · rw [List.map_map, ← hlengths]
    exact List.map_congr_left fun row _ => List.length_map _

/-- The parameters of a batch are the cells of its rows. -/
lemma exists_isBatch (d : Dialect) (schema : Option SchemaRegistry) (table : String)
    (hcolumns : columns ≠ []) (hrows : rows ≠ [])
    (hwidth : ∀ row ∈ rows, row.length = columns.length) :
    ∃ out cells,
      (⟨d, schema, false⟩ : Builder).build (.batchInsert table columns rows) = .ok out ∧
      out.IsBatch (batchHead d table columns) cells ∧
      cells.map (List.map Prod.snd) = rows.map (rowValues d schema table columns) := by
  let b : Builder := ⟨d, schema, false⟩
  let s : Draft := .statement (.batchInsert table columns rows)
  have hfragment : s.fragment d schema =
      [.text (batchHead d table columns)] ++ batchRows schema table columns rows :=
    fragment_batchInsert d schema table hcolumns hrows hwidth
  obtain ⟨out, hout⟩ : ∃ out, b.write s = .ok out := by
    have herror : error? (s.fragment b.dialect b.schema) = none :=
      error?_batch hcolumns hrows hwidth
    rw [write_eq_match, herror]
    exact ⟨_, rfl⟩
  have hvalues := map_snd_allParams hcolumns hrows hwidth hout
  obtain ⟨cells, hflatten, hcells⟩ := exists_cells hvalues
  have hnames : (b.placed s).map Prod.fst = cells.flatten.map Prod.fst := by
    rw [hflatten, toList_allParams (b := b) rfl hout rfl, List.map_map]
    rfl
  have hfilled := (FilledAs.text (batchHead d table columns)).append (batchRows_filledAs hcells)
  refine ⟨out, cells, hout, ⟨?_, hflatten.symm, ?_, ?_⟩, hcells⟩
  · rw [sql_of_write hout, hnames]
    exact (congrArg (Fragment.fill · _) hfragment).trans hfilled.fill
  · rw [hflatten]
    exact out.allParams.nodup_names
  · intro cell hcell
    have hname : cell.1 ∈ (b.placed s).map Prod.fst := hnames ▸ List.mem_map_of_mem hcell
    exact Binding.isPlaceholder_of_mem_placedNames (b := b.startFor s) rfl hname

lemma build_eq_error {b : Builder} {s : Statement} {e : QueryError}
    (h : s.fragment b.dialect b.schema = [.refusal e]) : b.build s = .error e := by
  rw [Builder.build, h]
  rfl

/-- There is no batch without columns or rows. -/
lemma exists_build_eq_validation (b : Builder) (table : String) (h : columns = [] ∨ rows = []) :
    ∃ message, b.build (.batchInsert table columns rows) = .error (.validation message) := by
  by_cases hcolumns : columns = []
  · subst hcolumns
    exact ⟨_, build_eq_error rfl⟩
  · obtain rfl := h.resolve_left hcolumns
    refine ⟨"batch insert needs at least one row", build_eq_error ?_⟩
    rw [fragment, if_neg (by simpa using hcolumns)]
    rfl

/-- The first row of another width is reported. -/
lemma build_eq_mismatch (b : Builder) (table : String) {earlier later : List (List Value)}
    {row : List Value} (hcolumns : columns ≠ [])
    (hearlier : ∀ r ∈ earlier, r.length = columns.length) (hrow : row.length ≠ columns.length) :
    b.build (.batchInsert table columns (earlier ++ row :: later)) =
      .error (.batchInsertMismatch earlier.length columns.length row.length) := by
  apply build_eq_error
  rw [fragment, if_neg (by simpa using hcolumns), if_neg (by simp),
    findMisfit_append hearlier hrow, Nat.zero_add]

/-- A batch has as many parameters as cells. -/
lemma size_allParams {out : Built} {head : String} {cells : List (List (String × Value))}
    (hbatch : out.IsBatch head cells)
    (hcells : cells.map (List.map Prod.snd) = rows.map (rowValues d schema table columns))
    (hwidth : ∀ row ∈ rows, row.length = columns.length) :
    out.allParams.size = rows.length * columns.length := by
  have hwidths : rows.map (List.length ∘ rowValues d schema table columns) =
      rows.map fun _ => columns.length := by
    apply List.map_congr_left
    intro row hrow
    rw [Function.comp_apply, rowValues, List.length_map, List.length_zip, hwidth row hrow, min_self]
  calc out.allParams.toList.length
      = (cells.map (List.map Prod.snd)).flatten.length := by
        rw [hbatch.params, ← List.map_flatten, List.length_map]
    _ = (rows.map fun _ => columns.length).sum := by
        rw [hcells, List.length_flatten, List.map_map, hwidths]
    _ = rows.length * columns.length := by
        rw [List.map_const', List.sum_replicate, smul_eq_mul]

/-- A batch without columns or rows is refused, and so is one with a row of another width, with the
number of the first such row. Any other batch is written with a placeholder of its own for each
cell; the parameters are the values of the cells, row after row. A batch of one row is the insert of
its pairs. -/
theorem build_batchInsert (d : Dialect) (schema : Option SchemaRegistry) (table : String)
    (columns : List String) (rows : List (List Value)) :
    let b : Builder := ⟨d, schema, false⟩
    let written := b.build (.batchInsert table columns rows)
    (columns = [] ∨ rows = [] → ∃ message, written = .error (.validation message)) ∧
    (columns ≠ [] → ∀ earlier row later, rows = earlier ++ row :: later →
      (∀ r ∈ earlier, r.length = columns.length) → row.length ≠ columns.length →
      written = .error (.batchInsertMismatch earlier.length columns.length row.length)) ∧
    (columns ≠ [] → rows ≠ [] → (∀ row ∈ rows, row.length = columns.length) →
      ∃ out cells, written = .ok out ∧ out.IsBatch (batchHead d table columns) cells ∧
        cells.map (List.map Prod.snd) = rows.map (rowValues d schema table columns) ∧
        out.allParams.size = rows.length * columns.length ∧
        ∀ row, rows = [row] → b.build (.insert table (rowPairs columns row)) = .ok out) := by
  intro b written
  refine ⟨exists_build_eq_validation b table, ?_, ?_⟩
  · rintro hcolumns earlier row later rfl hearlier hrow
    exact build_eq_mismatch b table hcolumns hearlier hrow
  · intro hcolumns hrows hwidth
    obtain ⟨out, cells, hout, hbatch, hcells⟩ :=
      exists_isBatch d schema table hcolumns hrows hwidth
    refine ⟨out, cells, hout, hbatch, hcells, size_allParams hbatch hcells hwidth, ?_⟩
    rintro row rfl
    rw [← hout, build_batchInsert_singleton b table hcolumns (by simpa using hwidth)]

/-- The names of two columns differ by a digit that is also the first one of a number: the twelfth
placeholder is passed over, since the second cell has it. -/
theorem build_batchInsert_collision :
    let b : Builder := ⟨.mysql, none, false⟩
    let columns := ["x", "a1", "a"]
    let rows := List.replicate 4 [.int 1, .bool true, .null]
    columns ≠ [] ∧ rows ≠ [] ∧ (∀ row ∈ rows, row.length = columns.length) ∧
      ∃ out, b.build (.batchInsert "t" columns rows) = .ok out ∧
        out.allParams.names = [":x1", ":a12", ":a3", ":x4", ":a15", ":a6", ":x7", ":a18", ":a9",
          ":x10", ":a111", ":a13"] ∧
        out.allParams.size = rows.length * columns.length := by
  intro b columns rows
  have hcolumns : columns ≠ [] := by decide
  have hrows : rows ≠ [] := by decide
  have hwidth : ∀ row ∈ rows, row.length = columns.length := by decide
  obtain ⟨out, -, hout, -, -, hsize, -⟩ :=
    (build_batchInsert .mysql none "t" columns rows).2.2 hcolumns hrows hwidth
  refine ⟨hcolumns, hrows, hwidth, out, hout, ?_, hsize⟩
  have hnames : (b.build (.batchInsert "t" columns rows)).toOption.map (·.allParams.names) =
      some [":x1", ":a12", ":a3", ":x4", ":a15", ":a6", ":x7", ":a18", ":a9", ":x10", ":a111",
        ":a13"] := by decide +kernel
  rw [hout] at hnames
  exact Option.some.inj hnames

end Builder

end SqlCompose
