import Mathlib
import SqlCompose.Proofs.Aggregate.Shape
import SqlCompose.Proofs.Binding.Batch
import SqlCompose.Proofs.Overriding
import SqlCompose.Proofs.Truth.Fragment

/-!
# The rows of a written aggregate

In a written aggregate stands the text of the rows of its query, with a text for each of their
values: a placeholder that is bound to the value in the end, or the literal of the value. The
parameters that come with the query and with its rows are bound as well, unless another part of the
query gives the same name another value.
-/

namespace SqlCompose

open Fragment

variable {b : Builder} {out : Built} {q : Query} {d : Dialect} {e : String}

/-! ### Values in a statement -/

/-- A text stands for a value in a statement: it is its literal, or a parameter that has it. -/
def Built.StandsFor (b : Builder) (out : Built) (text : String) (v : Value) : Prop :=
  if b.inlineValues then text = b.dialect.literal v
  else (text, Binding.boundValue b.dialect v) ∈ out.allParams.toList

/-- Inline, each value is placed as its literal. -/
lemma Binding.fst_eq_literal_of_mem_placed {b : Binding} {f : Fragment} (hmode : b.inline = true)
    {p : String × Value} (hp : p ∈ b.placed f) : p.1 = b.dialect.literal p.2 := by
  induction f generalizing b with
  | nil => cases hp
  | cons piece rest ih =>
    cases piece with
    | text s => exact ih hmode hp
    | slot hint v =>
      rw [placed, bind_inline hmode] at hp
      rcases List.mem_cons.mp hp with rfl | hp
      · rfl
      · exact ih hmode hp
    | supply params => exact ih (b := b.merge params) hmode hp
    | refusal e => cases hp

/-- What is placed for a value stands for it in the end. -/
lemma Builder.standsFor_of_mem_placed {s : Draft} (h : b.write s = .ok out) {p : String × Value}
    (hp : p ∈ b.placed s) : out.StandsFor b p.1 p.2 := by
  unfold Built.StandsFor
  split
  · rename_i hmode
    exact Binding.fst_eq_literal_of_mem_placed (b := b.startFor s) hmode hp
  · rename_i hmode
    exact (mem_allParams (by simpa using hmode) h).mpr (.inl ⟨p.2, hp, rfl⟩)

/-! ### The rows of a query in a statement -/

/-- A statement has the rows of a query: their text, which may have lost the blanks at its end, with
texts that stand for their values, and the parameters that come with them and with the query. -/
structure Built.HasRows (b : Builder) (q : Query) (out : Built) : Prop where
  accepted : error? (q.rows b.dialect) = none
  text : ∃ before kept texts after,
    (kept = q.rows b.dialect ∨ kept = trimEnd (q.rows b.dialect)) ∧
      out.sql = before ++ kept.fill texts ++ after ∧
      List.Forall₂ (out.StandsFor b) texts (values (q.rows b.dialect))
  supplied : ∀ m ∈ q.params :: supplies (q.rows b.dialect), ∀ n v, (n, v) ∈ m.toList →
    (∀ m' ∈ q.maps, ∀ w, (n, w) ∈ m'.toList → w = v) → (n, v) ∈ out.allParams.toList

/-- A part of a draft is written with texts that stand for its values. -/
lemma Builder.exists_fill_of_append {s : Draft} {before kept after : Fragment}
    (h : b.write s = .ok out) (hs : s.fragment b.dialect b.schema = before ++ kept ++ after) :
    ∃ start texts rest, out.sql = start ++ kept.fill texts ++ rest ∧
      List.Forall₂ (out.StandsFor b) texts (values kept) := by
  have herror := error?_eq_none_of_write h
  simp only [hs, error?_append, Option.or_eq_none_iff] at herror
  obtain ⟨⟨hbefore, hkept⟩, hafter⟩ := herror
  have hboth : error? (before ++ kept) = none := by simp [hbefore, hkept]
  have hsql : out.sql = (b.startFor s).textOf (before ++ kept ++ after) := by
    rw [sql_of_write h, ← hs]
    rfl
  refine ⟨(b.startFor s).textOf before, ((b.startFor s).after before).placedNames kept,
    ((b.startFor s).after (before ++ kept)).textOf after, ?_, ?_⟩
  · rw [hsql, Binding.textOf_append hboth, Binding.textOf_append hbefore]
    rfl
  · rw [← Binding.map_snd_placed hkept (b := (b.startFor s).after before), Binding.placedNames,
      List.forall₂_map_left_iff, List.forall₂_map_right_iff, List.forall₂_same]
    intro p hp
    refine standsFor_of_mem_placed h ?_
    rw [placed, hs, Binding.placed_append hboth, Binding.placed_append hbefore]
    exact List.mem_append_left _ (List.mem_append_right _ hp)

/-- An aggregate brings no parameters with it that do not come with its query. -/
lemma Query.mem_maps_of_scalarQuery {m : Params} (hm : m ∈ (q.scalarQuery e).maps) :
    m = ∅ ∨ m ∈ q.maps := by
  cases h : q.needsWrapping with
  | true =>
    rw [scalarQuery_of_needsWrapping h] at hm
    simpa [enclosing, fromQuery, selectExpr, Query.empty, Query.maps, mapsOfSelect, mapsOfTables,
      mapsOfJoins, mapsOfFilter, mapsOfGrouping, mapsOfUnions, Selectable.maps, TableSource.maps,
      Expression.ofSql] using hm
  | false =>
    rw [scalarQuery, if_neg (by simp [h])] at hm
    obtain ⟨select, selectOption, distinct, tables, joins, filter, groupBy, having, orderBy, unions,
      limit, offset, indexBy, params⟩ := q
    simp only [Query.maps, mapsOfSelect, Selectable.maps, Expression.ofSql, List.mem_cons,
      List.mem_append, List.flatMap_nil, List.not_mem_nil] at hm ⊢
    tauto

/-- A written aggregate has the rows of its query. -/
lemma Query.hasRows_of_build (h : b.build (.select (q.scalarQuery e)) = .ok out) :
    out.HasRows b q := by
  have hwrite : b.write (.statement (.select (q.scalarQuery e))) = .ok out := h
  obtain ⟨before, kept, after, hfragment, hkept, hparams⟩ := q.keeps_scalarQuery b.dialect e
  have heffects : effects kept = effects (q.rows b.dialect) := by
    rcases hkept with rfl | rfl
    · rfl
    · exact effects_trimEnd _
  have herror := Builder.error?_eq_none_of_write hwrite
  have hsupplies := Draft.supplies_fragment _ herror
  have hs : Draft.fragment b.dialect b.schema (.statement (.select (q.scalarQuery e))) =
    before ++ kept ++ after := hfragment
  constructor
  · rw [hs, error?_append, error?_append, Option.or_eq_none_iff, Option.or_eq_none_iff,
      ← error?_effects kept, heffects, error?_effects] at herror
    exact herror.1.2
  · obtain ⟨start, texts, rest, hsql, hstands⟩ := Builder.exists_fill_of_append hwrite hs
    refine ⟨start, kept, texts, rest, hkept, hsql, ?_⟩
    rwa [← values_effects, heffects, values_effects] at hstands
  · intro m hm n v hv hagree
    have hmaps : m ∈ (q.scalarQuery e).maps := by
      rw [← supplies_effects, ← heffects, supplies_effects] at hm
      rw [hs, supplies_append, supplies_append] at hsupplies
      have hmem : m ∈ supplies before ++ supplies kept ++ supplies after := by
        rcases List.mem_cons.mp hm with rfl | hm
        · simp [hparams]
        · simp [hm]
      rw [hsupplies] at hmem
      exact hmem
    obtain ⟨earlier, later, hsplit⟩ := List.append_of_mem hmaps
    have hlater : ∀ m' ∈ later, ∀ w, (n, w) ∈ m'.toList → w = v := by
      intro m' hm' w hw
      have hmem : m' ∈ (q.scalarQuery e).maps := by simp [hsplit, hm']
      rcases mem_maps_of_scalarQuery hmem with rfl | hown
      · cases hw
      · exact hagree m' hown w hw
    have hmerged : (n, v) ∈ (Params.merged (q.scalarQuery e).maps).toList := by
      rw [hsplit]
      exact Params.mem_merged_of_agree hv hlater
    rw [Builder.mem_allParams_of_supplied hwrite ⟨m, hmaps, Params.mem_names.mpr ⟨v, hv⟩⟩]
    exact hmerged

end SqlCompose
