import Mathlib
import SqlCompose.Proofs.Bound.Query
import SqlCompose.Proofs.Outline.Write

/-!
# What two dialects bind

With placeholders, two dialects that both write a draft bind the same names in the same order. Each
of the two values that they bind for a name is what the dialect makes of one and the same value of
the draft: they give the next value the same placeholder, and stay so whatever is placed or taken
over.
-/

namespace SqlCompose

open Fragment

/-! ### Statements -/

lemma bound_assigned {d : Dialect} {schema : Option SchemaRegistry} {table column : String}
    {operand : Operand} (h : error? (assigned d schema table column operand) = none)
    (hnull : ∀ p ∈ operand.parts, ¬p.HasNullRow) :
    bound (assigned d schema table column operand) =
      (operand.bindables schema table column).map (Bindable.piece d) := by
  cases operand with
  | value v => rfl
  | list vs => simp [assigned] at h
  | query q =>
    rw [Operand.parts] at hnull
    rw [assigned, error?_bracket] at h
    rw [assigned, bound_bracket, q.bound_fragment h hnull, Operand.bindables]
  | expr e => rfl

lemma bound_assignments {d : Dialect} {schema : Option SchemaRegistry} {table : String}
    (columns : List (String × Operand))
    (h : ∀ p ∈ columns, error? (assigned d schema table p.1 p.2) = none)
    (hnull : ∀ p ∈ partsOfPairs columns, ¬p.HasNullRow) :
    (columns.flatMap fun p => bound (assigned d schema table p.1 p.2)) =
      (columns.flatMap fun p => p.2.bindables schema table p.1).map (Bindable.piece d) := by
  induction columns with
  | nil => rfl
  | cons pair columns ih =>
    rw [List.forall_mem_cons] at h
    rw [partsOfPairs, List.forall_mem_append] at hnull
    rw [List.flatMap_cons, List.flatMap_cons, List.map_append, bound_assigned h.1 hnull.1,
      ih h.2 hnull.2]

lemma bound_batchRows {d : Dialect} (schema : Option SchemaRegistry) (table : String)
    (columns : List String) (rows : List (List Value)) :
    bound (batchRows schema table columns rows) = (rows.flatMap fun row =>
      (columns.zip row).map fun (column, v) =>
        Bindable.value column (castFor schema table column v)).map (Bindable.piece d) := by
  simp only [batchRows, bound_join, List.flatMap_map, bound_bracket, List.map_flatMap]
  apply List.flatMap_congr
  intro row _
  rw [← List.flatMap_map]
  exact flatMap_bound_map fun _ _ => rfl

/-- A statement binds its bindables in order, if no row of a membership has a null. -/
lemma Statement.bound_fragment {d : Dialect} {schema : Option SchemaRegistry} (s : Statement)
    (h : error? (s.fragment d schema) = none) (hnull : ∀ p ∈ s.parts, ¬p.HasNullRow) :
    bound (s.fragment d schema) = (s.bindables schema).map (Bindable.piece d) := by
  cases s with
  | select q => exact q.bound_fragment h hnull
  | insert table columns =>
    simp only [Statement.fragment] at h ⊢
    split at h
    · rename_i hempty
      rw [if_pos hempty, List.isEmpty_iff.mp hempty]
      rfl
    · rename_i hempty
      simp only [error?_text_cons, error?_bracket, error?_join, List.mem_map,
        forall_exists_index, and_imp, forall_apply_eq_imp_iff₂] at h
      rw [if_neg hempty, bound_text_cons, bound_bracket, bound_join, List.flatMap_map]
      exact bound_assignments columns h hnull
  | insertFrom table columns q => exact q.bound_fragment h hnull
  | batchInsert table columns rows =>
    simp only [Statement.fragment] at h ⊢
    split_ifs at h ⊢
    · simp at h
    · simp at h
    · cases hmisfit : findMisfit columns.length 0 rows with
      | some misfit => simp [hmisfit] at h
      | none =>
        dsimp only
        rw [bound_text_cons, bound_batchRows]
        rfl
  | update table columns filter =>
    simp only [Statement.parts, List.forall_mem_append] at hnull
    simp only [Statement.fragment] at h ⊢
    split at h
    · simp at h
    · rename_i hempty
      simp only [error?_text_cons, error?_append, Option.or_eq_none_iff, error?_join, List.mem_map,
        forall_exists_index, and_imp, forall_apply_eq_imp_iff₂, error?_whereClause] at h
      rw [if_neg hempty, bound_text_cons, bound_append, bound_join, List.flatMap_map,
        bound_whereClause, bound_filterFragment filter h.2 hnull.2, Statement.bindables,
        List.map_append]
      exact congrArg (· ++ _) (bound_assignments columns h.1 hnull.1)
  | delete table filter =>
    simp only [Statement.fragment, error?_text_cons, error?_whereClause] at h
    rw [Statement.fragment, bound_text_cons, bound_whereClause,
      bound_filterFragment filter h hnull, Statement.bindables]
  | truncateTable | dropTable => rfl

/-- A draft without a null in a row that is looked for binds the same in every dialect. -/
lemma Draft.bound_fragment {d : Dialect} {schema : Option SchemaRegistry} (s : Draft)
    (h : error? (s.fragment d schema) = none) (hnull : ∀ p ∈ s.parts, ¬p.HasNullRow) :
    bound (s.fragment d schema) = (s.bindables schema).map (Bindable.piece d) := by
  cases s with
  | statement s => exact s.bound_fragment h hnull
  | condition c =>
    rw [Draft.parts, List.forall_mem_cons] at hnull
    exact c.bound_fragment h hnull.1 hnull.2

/-! ### Maps with the same names -/

/-- The same names in the same order, with related values. -/
def Params.Related (R : Value → Value → Prop) (p q : Params) : Prop :=
  List.Forall₂ (fun e e' => e.1 = e'.1 ∧ R e.2 e'.2) p.toList q.toList

section Related

variable {R : Value → Value → Prop} {p q : Params}

/-- Setting a name to related values keeps two lists of entries related. -/
lemma forall₂_setEntry {name : String} {v w : Value} {es es' : List (String × Value)}
    (h : List.Forall₂ (fun e e' => e.1 = e'.1 ∧ R e.2 e'.2) es es') (hvalue : R v w) :
    List.Forall₂ (fun e e' => e.1 = e'.1 ∧ R e.2 e'.2) (setEntry name v es)
      (setEntry name w es') := by
  induction h with
  | nil => exact .cons ⟨rfl, hvalue⟩ .nil
  | @cons e e' es es' hentry hrest ih =>
    obtain ⟨n, v'⟩ := e
    obtain ⟨n', w'⟩ := e'
    obtain ⟨rfl, hold⟩ := hentry
    simp only [setEntry]
    split
    · exact .cons ⟨rfl, hvalue⟩ hrest
    · exact .cons ⟨rfl, hold⟩ ih

lemma Params.Related.names (h : Related R p q) : p.names = q.names := by
  rw [names_eq_map, names_eq_map]
  unfold Related at h
  generalize p.toList = es at h
  generalize q.toList = es' at h
  induction h with
  | nil => rfl
  | cons hentry _ ih => rw [List.map_cons, List.map_cons, hentry.1, ih]

lemma Params.Related.insert (h : Related R p q) (name : String) {v w : Value} (hvalue : R v w) :
    Related R (p.insert name v) (q.insert name w) :=
  forall₂_setEntry h hvalue

/-- Taking over a map on both sides. -/
lemma Params.Related.extend (h : Related R p q) {m : Params} (hvalues : ∀ e ∈ m.toList, R e.2 e.2) :
    Related R (p.extend m) (q.extend m) := by
  have hfold (entries : List (String × Value)) (hentries : ∀ e ∈ entries, R e.2 e.2)
      (m m' : OrderedMap Value) (hm : Related R ⟨m⟩ ⟨m'⟩) :
      Related R ⟨m.insertMany entries⟩ ⟨m'.insertMany entries⟩ := by
    induction entries generalizing m m' with
    | nil => exact hm
    | cons entry entries ih =>
      rw [List.forall_mem_cons] at hentries
      exact ih hentries.2 _ _ (forall₂_setEntry hm hentries.1)
  exact hfold m.toList hvalues _ _ h

end Related

/-! ### Two runs -/

namespace Binding

variable {b c : Binding}

/-- What is bound in the end depends on the pieces that bind something only. -/
lemma write_snd_bound (b : Binding) (f : Fragment) : (b.write (bound f)).2 = (b.write f).2 := by
  induction f generalizing b with
  | nil => rfl
  | cons piece rest ih =>
    cases piece with
    | text s => exact ih b
    | slot hint v =>
      rw [bound_slot_cons, write, write]
      dsimp only
      rw [bind_base, ih]
    | supply params => exact ih (b.merge params)
    | refusal e => rfl

/-- A part of a date is no boolean, so it is bound as it is. -/
lemma boundValue_extractedValue (d : Dialect) (p : DatePart) (n : Int64) :
    boundValue d (extractedValue d p n) = extractedValue d p n := by
  cases d <;> cases p <;> rfl

/-- Two dialects that bind the same things bind the same names, and for each of them what they make
of the same value. -/
lemma Alike.write_bindables {d₁ d₂ : Dialect} {R : Value → Value → Prop} {bs : List Bindable}
    (h : b.Alike c) (hb : b.dialect = d₁) (hc : c.dialect = d₂)
    (hparams : b.params.Related R c.params)
    (hR : ∀ o ∈ bs.flatMap Bindable.origins, R (o.valueIn d₁) (o.valueIn d₂)) :
    (b.write (bs.map (Bindable.piece d₁))).2.params.Related R
      (c.write (bs.map (Bindable.piece d₂))).2.params := by
  -- by induction on what is bound: the two bindings stay alike, and related values are added
  induction bs generalizing b c with
  | nil => exact hparams
  | cons bindable bs ih =>
    rw [List.flatMap_cons, List.forall_mem_append] at hR
    have hslot (hint : String) (v w : Value)
        (hvalue : R (boundValue d₁ v) (boundValue d₂ w)) :
        ((b.bind hint v).2.write (bs.map (Bindable.piece d₁))).2.params.Related R
          ((c.bind hint w).2.write (bs.map (Bindable.piece d₂))).2.params := by
      refine ih (h.bind hint v w) (by rw [bind_snd_dialect, hb]) (by rw [bind_snd_dialect, hc]) ?_
        hR.2
      rw [bind_snd_params h.left, bind_snd_params h.right, h.freshName, hb, hc]
      exact hparams.insert _ hvalue
    cases bindable with
    | value column v =>
      exact hslot (base column) v v (hR.1 (.operand v) List.mem_cons_self)
    | datePart field p n =>
      refine hslot (base field) _ _ ?_
      rw [boundValue_extractedValue, boundValue_extractedValue]
      exact hR.1 (.datePart p n) List.mem_cons_self
    | supplied params =>
      refine ih (b := b.merge params) (c := c.merge params) (h.merge rfl) hb hc ?_ hR.2
      refine hparams.extend fun e he => ?_
      exact hR.1 (.supplied e.2) (List.mem_map_of_mem he)

end Binding

namespace Builder

variable {d₁ d₂ : Dialect} {schema : Option SchemaRegistry} {s : Draft} {out₁ out₂ : Built}

/-- What is bound for a draft that is written with placeholders. -/
lemma allParams_eq_of_bindables {d : Dialect} {out : Built} (hnull : ∀ p ∈ s.parts, ¬p.HasNullRow)
    (h : (⟨d, schema, false⟩ : Builder).write s = .ok out) :
    out.allParams = (((⟨d, schema, false⟩ : Builder).startFor s).write
      ((s.bindables schema).map (Bindable.piece d))).2.params := by
  rw [allParams_of_write h, ← Binding.write_snd_bound,
    s.bound_fragment (error?_eq_none_of_write h) hnull]

/-- Two dialects bind the same names in the same order. For each name they bind what they make of
the same value: a value of a supplied map as it is, any other value as it is bound, and the number
of a part of a date as it is extracted. -/
theorem forall₂_allParams (hnull : ∀ p ∈ s.parts, ¬p.HasNullRow)
    (h₁ : (⟨d₁, schema, false⟩ : Builder).write s = .ok out₁)
    (h₂ : (⟨d₂, schema, false⟩ : Builder).write s = .ok out₂) :
    List.Forall₂ (fun e₁ e₂ => e₁.1 = e₂.1 ∧
        ∃ o ∈ s.origins schema, e₁.2 = o.valueIn d₁ ∧ e₂.2 = o.valueIn d₂)
      out₁.allParams.toList out₂.allParams.toList := by
  have halike : ((⟨d₁, schema, false⟩ : Builder).startFor s).Alike
      ((⟨d₂, schema, false⟩ : Builder).startFor s) := ⟨rfl, rfl, rfl, rfl, rfl⟩
  rw [allParams_eq_of_bindables hnull h₁, allParams_eq_of_bindables hnull h₂]
  let R (v w : Value) : Prop := ∃ o ∈ s.origins schema, v = o.valueIn d₁ ∧ w = o.valueIn d₂
  have hR : ∀ o ∈ s.origins schema, R (o.valueIn d₁) (o.valueIn d₂) :=
    fun o ho => ⟨o, ho, rfl, rfl⟩
  exact halike.write_bindables rfl rfl (R := R) .nil hR

/-- A condition on rows, on a boolean and on a week day, with a verbatim one. -/
def bornOnSunday : Draft :=
  .condition (.and [.within ["a", "b"] (.rows [[.int 1, .int 2], [.int 3, .int 4]]) false,
    .compare "active" .eq (.value (.bool true)), .lookup "born" (.part .weekDay) (.value (.int 1)),
    .raw "x = :x" (.ofList [(":x", .bool true)])])

set_option maxRecDepth 2000 in
/-- Tuples are compared in one dialect and columns in the other; the boolean and the number of the
Sunday are bound differently, the supplied boolean is not. -/
theorem forall₂_allParams_bornOnSunday :
    ∃ out₁ out₂ : Built, (⟨.pgsql, none, false⟩ : Builder).write bornOnSunday = .ok out₁ ∧
      (⟨.sqlite, none, false⟩ : Builder).write bornOnSunday = .ok out₂ ∧
      (∀ p ∈ bornOnSunday.parts, ¬p.HasNullRow) ∧
      List.Forall₂ (fun e₁ e₂ => e₁.1 = e₂.1 ∧
          ∃ o ∈ bornOnSunday.origins none,
            e₁.2 = o.valueIn .pgsql ∧ e₂.2 = o.valueIn .sqlite)
        out₁.allParams.toList out₂.allParams.toList := by
  let given (active born : Value) : Params :=
    .ofList [(":a1", .int 1), (":b2", .int 2), (":a3", .int 3), (":b4", .int 4),
      (":active5", active), (":born6", born), (":x", .bool true)]
  have h₁ : (⟨.pgsql, none, false⟩ : Builder).write bornOnSunday =
      .ok ⟨"(\"a\", \"b\") IN ((:a1, :b2), (:a3, :b4)) AND \"active\" = :active5 AND " ++
        "EXTRACT(DOW FROM \"born\"::timestamp) = :born6 AND (x = :x)",
        some (given (.text "TRUE") (.int 0))⟩ := by rfl
  have h₂ : (⟨.sqlite, none, false⟩ : Builder).write bornOnSunday =
      .ok ⟨"((\x60a\x60=:a1 AND \x60b\x60=:b2) OR (\x60a\x60=:a3 AND \x60b\x60=:b4)) AND " ++
        "\x60active\x60 = :active5 AND strftime('%w', \x60born\x60) = :born6 AND (x = :x)",
        some (given (.int 1) (.text "0"))⟩ := by rfl
  have hnull : ∀ p ∈ bornOnSunday.parts, ¬p.HasNullRow := by
    rintro _ hp ⟨columns, negated, hrow, hmem⟩
    obtain ⟨-, rfl, -⟩ : columns = ["a", "b"] ∧ _ ∧ negated = false := by
      simpa [bornOnSunday, Draft.parts, Condition.inside, partsOfConditions, Operand.parts] using hp
    simp only [List.mem_cons, List.not_mem_nil, or_false] at hrow
    rcases hrow with rfl | rfl <;> simp at hmem
  exact ⟨_, _, h₁, h₂, hnull, forall₂_allParams hnull h₁ h₂⟩

end Builder

end SqlCompose
