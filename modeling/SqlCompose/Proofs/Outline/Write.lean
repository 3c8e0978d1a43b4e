import Mathlib
import SqlCompose.Proofs.Outline.Query
import SqlCompose.Proofs.Draft

/-!
# Values stay out of the text

With placeholders, a draft is written as its outline is: two drafts of the same outline have the
same text and the same parameter names in the same order. Two bindings that differ only in bound
values give the next value the same placeholder, and stay so whatever is placed or taken over.
-/

namespace SqlCompose

open Fragment

/-! ### Outlines of statements -/

lemma outline_assigned {d : Dialect} {schema : Option SchemaRegistry} {table column : String}
    {operand : Operand} (h : error? (assigned d schema table column operand) = none) :
    Fragment.outline (assigned d schema table column operand.outline) =
      Fragment.outline (assigned d schema table column operand) := by
  cases operand with
  | value v => rfl
  | list vs => simp [assigned] at h
  | query q =>
    rw [assigned, error?_bracket] at h
    rw [Operand.outline, assigned, assigned, outline_bracket, outline_bracket,
      q.outline_fragment h]
  | expr e => exact outline_expr e

/-- What is written for each column, `lead` standing before its value. -/
lemma outline_assignments {d : Dialect} {schema : Option SchemaRegistry} {table : String}
    (lead : String → Fragment) (columns : List (String × Operand))
    (h : ∀ p ∈ columns, error? (assigned d schema table p.1 p.2) = none) :
    (outlinePairs columns).map
        (fun p => Fragment.outline (lead p.1 ++ assigned d schema table p.1 p.2)) =
      columns.map fun p => Fragment.outline (lead p.1 ++ assigned d schema table p.1 p.2) := by
  induction columns with
  | nil => rfl
  | cons pair columns ih =>
    rw [List.forall_mem_cons] at h
    rw [outlinePairs, List.map_cons, List.map_cons, ih h.2, outline_append, outline_append,
      outline_assigned h.1]

lemma map_fst_outlinePairs (columns : List (String × Operand)) :
    (outlinePairs columns).map Prod.fst = columns.map Prod.fst := by
  induction columns with
  | nil => rfl
  | cons pair columns ih => rw [outlinePairs, List.map_cons, List.map_cons, ih]

lemma isEmpty_outlinePairs (columns : List (String × Operand)) :
    (outlinePairs columns).isEmpty = columns.isEmpty := by
  cases columns <;> rfl

/-- Rows that fit are still rows that fit without their values. -/
lemma findMisfit_outline {width n : Nat} {rows : List (List Value)}
    (h : findMisfit width n rows = none) :
    findMisfit width n (rows.map (List.map Value.outline)) = none := by
  induction rows generalizing n with
  | nil => rfl
  | cons row rows ih =>
    simp only [findMisfit] at h
    split at h
    · rename_i hwidth
      rw [List.map_cons, findMisfit, List.length_map, if_pos hwidth, ih h]
    · simp at h

lemma outline_batchRows (schema : Option SchemaRegistry) (table : String)
    (columns : List String) (rows : List (List Value)) :
    Fragment.outline (batchRows schema table columns (rows.map (List.map Value.outline))) =
      Fragment.outline (batchRows schema table columns rows) := by
  simp only [batchRows, outline_join, List.map_map]
  congr 1
  apply List.map_congr_left
  intro row _
  simp only [Function.comp_apply, outline_bracket, outline_join, List.map_map,
    List.zip_map_right]
  rfl

lemma outline_whereClause {d : Dialect} (filter : Option Condition)
    (h : error? (filterFragment d filter) = none) :
    Fragment.outline (whereClause d (outlineFilter filter)) =
      Fragment.outline (whereClause d filter) := by
  have hclause : Fragment.outline (clause "WHERE" (filterFragment d (outlineFilter filter))) =
      Fragment.outline (clause "WHERE" (filterFragment d filter)) := by
    rw [outline_clause, outline_clause, outline_filterFragment filter h]
  have hblank := congrArg Fragment.isBlank hclause
  rw [isBlank_outline, isBlank_outline] at hblank
  simp only [whereClause, hblank]
  split
  · exact hclause
  · rw [outline_text_cons, outline_text_cons, hclause]

/-- Without its values a statement is written alike, unless it is refused. -/
lemma Statement.outline_fragment {d : Dialect} {schema : Option SchemaRegistry} (s : Statement)
    (h : error? (s.fragment d schema) = none) :
    Fragment.outline (s.outline.fragment d schema) = Fragment.outline (s.fragment d schema) := by
  cases s with
  | select q => exact q.outline_fragment h
  | insert table columns =>
    simp only [Statement.fragment, Statement.outline, isEmpty_outlinePairs,
      map_fst_outlinePairs] at h ⊢
    split at h
    · rename_i hempty
      rw [if_pos hempty, if_pos hempty]
    · rename_i hempty
      simp only [error?_text_cons, error?_bracket, error?_join, List.mem_map,
        forall_exists_index, and_imp, forall_apply_eq_imp_iff₂] at h
      have hassigned := outline_assignments (fun _ => []) columns h
      simp only [List.nil_append] at hassigned
      simp only [if_neg hempty, outline_text_cons, outline_bracket, outline_join, List.map_map]
      exact congrArg (fun fs => _ :: bracket (join ", " fs)) hassigned
  | insertFrom table columns q =>
    exact congrArg (_ :: ·) (q.outline_fragment h)
  | batchInsert table columns rows =>
    simp only [Statement.fragment, Statement.outline, List.isEmpty_map] at h ⊢
    split_ifs at h ⊢
    · rfl
    · rfl
    · cases hmisfit : findMisfit columns.length 0 rows with
      | some misfit => simp [hmisfit] at h
      | none =>
        rw [findMisfit_outline hmisfit]
        simp only [outline_text_cons, outline_batchRows]
  | update table columns filter =>
    simp only [Statement.fragment, Statement.outline, isEmpty_outlinePairs] at h ⊢
    split at h
    · simp at h
    · rename_i hempty
      simp only [error?_text_cons, error?_append, Option.or_eq_none_iff, error?_join, List.mem_map,
        forall_exists_index, and_imp, forall_apply_eq_imp_iff₂, error?_whereClause] at h
      have hassigned :=
        outline_assignments (fun column => [.text (d.quoteColumn column ++ "=")]) columns h.1
      simp only [if_neg hempty, outline_text_cons, outline_append, outline_join, List.map_map,
        outline_whereClause filter h.2]
      exact congrArg (fun fs => _ :: (join ", " fs ++ _)) hassigned
  | delete table filter =>
    simp only [Statement.fragment, error?_text_cons, error?_whereClause] at h
    exact congrArg (_ :: ·) (outline_whereClause filter h)
  | truncateTable | dropTable => rfl

lemma Draft.outline_fragment {d : Dialect} {schema : Option SchemaRegistry} (s : Draft)
    (h : error? (s.fragment d schema) = none) :
    Fragment.outline (s.outline.fragment d schema) = Fragment.outline (s.fragment d schema) := by
  cases s with
  | statement s => exact s.outline_fragment h
  | condition c => exact c.outline_fragment h

/-! ### Text and names -/

namespace Fragment

@[simp] lemma fill_outline (f : Fragment) (texts : List String) :
    (outline f).fill texts = f.fill texts := by
  induction f generalizing texts with
  | nil => rfl
  | cons piece rest ih =>
    cases piece with
    | text s => rw [outline_text_cons, fill, fill, ih]
    | slot hint v =>
      cases texts with
      | nil => exact ih []
      | cons text texts => rw [outline_slot_cons, fill, fill, ih]
    | supply params => exact ih texts
    | refusal e => rfl

lemma supplies_outline (f : Fragment) : supplies (outline f) = (supplies f).map Params.outline := by
  rw [supplies, outline, List.filterMap_map, supplies, List.map_filterMap]
  congr 1
  funext piece
  cases piece <;> rfl

end Fragment

/-- Setting a parameter adds its name at the end, unless it is there. -/
lemma Params.names_insert (p : Params) (name : String) (v : Value) :
    (p.insert name v).names =
      if normalize name ∈ p.names then p.names else p.names ++ [normalize name] :=
  keys_setEntry ..

/-- Which names there are after maps are taken over does not depend on any value. -/
lemma Params.names_extend_congr {p p' q q' : Params} (hp : p.names = p'.names)
    (hq : q.names = q'.names) : (p.extend q).names = (p'.extend q').names := by
  have hfold (m : OrderedMap Value) (entries : List (String × Value)) :
      (m.insertMany entries).keys =
        (entries.map Prod.fst).foldl (fun ks n => if n ∈ ks then ks else ks ++ [n]) m.keys := by
    induction entries generalizing m with
    | nil => rfl
    | cons entry entries ih =>
      have hstep : m.insertMany (entry :: entries) =
          (m.insert entry.1 entry.2).insertMany entries := rfl
      rw [hstep, ih, List.map_cons, List.foldl_cons]
      congr 1
      exact keys_setEntry ..
  have hnames (r s : Params) : (r.extend s).names =
      s.names.foldl (fun ks n => if n ∈ ks then ks else ks ++ [n]) r.names := hfold ..
  rw [hnames, hnames, hp, hq]

namespace Binding

/-- Two bindings with placeholders that differ at most in the values that they have bound. -/
structure Alike (b c : Binding) : Prop where
  left : b.inline = false
  right : c.inline = false
  counter : b.counter = c.counter
  names : b.params.names = c.params.names
  reserved : b.reserved = c.reserved

variable {b c : Binding} {f g : Fragment}

/-- The number of the next placeholder does not depend on the values that are bound. -/
lemma Alike.nextNumber (h : b.Alike c) (hint : String) : b.nextNumber hint = c.nextNumber hint := by
  have htaken : b.isTaken = c.isTaken := by
    funext name
    rw [isTaken, isTaken, h.names, h.reserved]
  have hsize : b.params.size = c.params.size := by
    have := congrArg List.length h.names
    simpa [Params.names_eq_map, Params.size, Params.toList, OrderedMap.size] using this
  rw [Binding.nextNumber, Binding.nextNumber, htaken, hsize, h.reserved, h.counter]

lemma Alike.freshName (h : b.Alike c) (hint : String) : b.freshName hint = c.freshName hint := by
  rw [Binding.freshName, Binding.freshName, h.nextNumber]

/-- Placing any two values under one hint changes nothing but values. -/
lemma Alike.bind (h : b.Alike c) (hint : String) (v w : Value) :
    (b.bind hint v).2.Alike (c.bind hint w).2 where
  left := by rw [bind_snd_inline, h.left]
  right := by rw [bind_snd_inline, h.right]
  counter := by simp [Binding.bind, h.left, h.right, h.nextNumber]
  names := by
    rw [bind_snd_params h.left, bind_snd_params h.right, Params.names_insert,
      Params.names_insert, h.names, h.freshName]
  reserved := by rw [bind_snd_reserved, bind_snd_reserved, h.reserved]

/-- Taking over two maps of the same names changes nothing but values. -/
lemma Alike.merge (h : b.Alike c) {p q : Params} (hnames : p.names = q.names) :
    (b.merge p).Alike (c.merge q) :=
  ⟨h.left, h.right, h.counter, Params.names_extend_congr h.names hnames, h.reserved⟩

/-- Two fragments of the same outline get the same placeholders and leave the same names. -/
lemma Alike.write (h : b.Alike c) (houtline : outline f = outline g) :
    b.placedNames f = c.placedNames g ∧
      (b.write f).2.params.names = (c.write g).2.params.names := by
  induction f generalizing g b c with
  | nil =>
    obtain rfl : g = [] := by simpa [outline] using houtline.symm
    exact ⟨rfl, h.names⟩
  | cons piece rest ih =>
    obtain ⟨piece', rest', rfl⟩ : ∃ piece' rest', g = piece' :: rest' := by
      cases g with
      | nil => simp [outline] at houtline
      | cons piece' rest' => exact ⟨piece', rest', rfl⟩
    have hpieces : piece.outline = piece'.outline ∧ outline rest = outline rest' := by
      simpa [outline] using houtline
    obtain ⟨hpiece, hrest⟩ := hpieces
    cases piece <;> cases piece' <;> simp only [Piece.outline, Piece.text.injEq, reduceCtorEq,
      Piece.slot.injEq, Piece.supply.injEq, Piece.refusal.injEq, and_true] at hpiece
    case text.text => exact ih (g := rest') h hrest
    case slot.slot hint v hint' w =>
      subst hpiece
      obtain ⟨hnames, hparams⟩ := ih (h.bind hint v w) hrest
      refine ⟨?_, hparams⟩
      simp only [placedNames] at hnames
      rw [placedNames, placedNames, placed, placed, List.map_cons, List.map_cons, hnames,
        bind_fst h.left, bind_fst h.right, h.freshName]
    case supply.supply p q =>
      exact ih (g := rest') (h.merge (Params.outline_eq_iff.mp hpiece)) hrest
    case refusal.refusal => exact ⟨rfl, h.names⟩

end Binding

namespace Builder

variable {b : Builder} {s t : Draft} {out out' : Built}

/-- The names that two drafts of the same outline reserve are the same. -/
lemma suppliedNames_eq_of_outline (h : b.write s = .ok out) (h' : b.write t = .ok out')
    (houtline : Fragment.outline (s.fragment b.dialect b.schema) =
      Fragment.outline (t.fragment b.dialect b.schema)) : s.suppliedNames = t.suppliedNames := by
  have hnames (maps : List Params) :
      (maps.map Params.outline).flatMap Params.names = maps.flatMap Params.names := by
    simp [List.flatMap_map]
  rw [s.suppliedNames_eq, t.suppliedNames_eq, ← s.supplies_fragment (error?_eq_none_of_write h),
    ← t.supplies_fragment (error?_eq_none_of_write h'), ← hnames, ← supplies_outline, houtline,
    supplies_outline, hnames]

/-- Two drafts of the same outline that are both written with placeholders have the same text, and
the names of their parameters are the same in the same order. -/
theorem text_independent_of_values (hmode : b.inlineValues = false)
    (houtline : s.outline = t.outline) (h : b.write s = .ok out) (h' : b.write t = .ok out') :
    out.sql = out'.sql ∧ out.allParams.names = out'.allParams.names := by
  have hfragments : Fragment.outline (s.fragment b.dialect b.schema) =
      Fragment.outline (t.fragment b.dialect b.schema) := by
    rw [← s.outline_fragment (error?_eq_none_of_write h), houtline,
      t.outline_fragment (error?_eq_none_of_write h')]
  have halike : (b.startFor s).Alike (b.startFor t) := by
    rw [startFor, startFor, suppliedNames_eq_of_outline h h' hfragments]
    exact ⟨hmode, hmode, rfl, rfl, rfl⟩
  obtain ⟨hplaced, hnames⟩ := halike.write hfragments
  refine ⟨?_, ?_⟩
  · rw [sql_of_write h, sql_of_write h', ← fill_outline, hfragments, fill_outline]
    exact congrArg _ hplaced
  · rw [allParams_of_write h, allParams_of_write h', hnames]

/-- An update of one row by a text, under a verbatim condition. -/
def setName (name : String) (id : Int64) : Draft :=
  .statement (.update "users" [("name", .value (.text name))]
    (some (.and [.compare "id" .eq (.value (.int id)),
      .raw "rank < :rank" (.ofList [(":rank", .int id)])])))

/-- A text that reads as another assignment is bound as any other text is. -/
theorem text_independent_of_values_setName :
    ∃ out out', (⟨.pgsql, none, false⟩ : Builder).write (setName "Ann" 1) = .ok out ∧
      (⟨.pgsql, none, false⟩ : Builder).write (setName "x, rank=0" 2) = .ok out' ∧
      (setName "Ann" 1).outline = (setName "x, rank=0" 2).outline ∧
      out.sql = out'.sql ∧ out.allParams.names = out'.allParams.names := by
  let sql := "UPDATE \"users\" SET \"name\"=:name1 WHERE \"id\" = :id2 AND (rank < :rank)"
  let params (name : String) (id : Int64) : Params :=
    .ofList [(":name1", .text name), (":id2", .int id), (":rank", .int id)]
  have h : (⟨.pgsql, none, false⟩ : Builder).write (setName "Ann" 1) =
      .ok ⟨sql, some (params "Ann" 1)⟩ := by rfl
  have h' : (⟨.pgsql, none, false⟩ : Builder).write (setName "x, rank=0" 2) =
      .ok ⟨sql, some (params "x, rank=0" 2)⟩ := by rfl
  have houtline : (setName "Ann" 1).outline = (setName "x, rank=0" 2).outline := by rfl
  exact ⟨_, _, h, h', houtline, text_independent_of_values rfl houtline h h'⟩

end Builder

end SqlCompose
