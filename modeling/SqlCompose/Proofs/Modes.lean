import Mathlib
import SqlCompose.Proofs.Parameters

/-!
# Placeholders and literals

A draft is written with placeholders exactly if it is written inline, and then the two texts differ
only in what stands for the values: they have the same text before, between and after them.
-/

namespace SqlCompose

namespace Fragment

/-! ### The text around the values -/

/-- The text before the first slot. -/
def lead : Fragment → String
  | .text s :: rest => s ++ lead rest
  | .supply _ :: rest => lead rest
  | .slot _ _ :: _ | .refusal _ :: _ | [] => ""

/-- The text after each slot, up to the next one. -/
def gaps : Fragment → List String
  | [] => []
  | .slot _ _ :: rest => lead rest :: gaps rest
  | .text _ :: rest | .supply _ :: rest | .refusal _ :: rest => gaps rest

/-- The text of a fragment is the text around its slots with the given texts between. -/
lemma fill_eq {f : Fragment} (h : f.error? = none) {texts : List String}
    (hlength : texts.length = f.values.length) :
    f.fill texts = f.lead ++ String.join (List.zipWith (· ++ ·) texts f.gaps) := by
  induction f generalizing texts with
  | nil =>
    obtain rfl : texts = [] := List.length_eq_zero_iff.mp hlength
    rfl
  | cons piece rest ih =>
    cases piece with
    | text s => rw [fill, lead, gaps, ih h hlength, String.append_assoc]
    | slot hint v =>
      cases texts with
      | nil => simp [values, Piece.value?] at hlength
      | cons text texts =>
        have hrest : texts.length = (values rest).length := by
          simpa [values, Piece.value?] using hlength
        rw [fill, lead, gaps, ih h hrest]
        simp [String.append_assoc]
    | supply params => exact ih h hlength
    | refusal e => simp at h

lemma length_gaps {f : Fragment} : f.gaps.length = f.values.length := by
  induction f with
  | nil => rfl
  | cons piece rest ih =>
    cases piece with
    | slot hint v => simpa [gaps, values, Piece.value?] using ih
    | text | supply | refusal => exact ih

end Fragment

open Fragment

/-- Inline, every value is placed as its literal. -/
lemma Binding.placedNames_inline {b : Binding} {f : Fragment} (hmode : b.inline = true)
    (h : f.error? = none) : b.placedNames f = f.values.map b.dialect.literal := by
  induction f generalizing b with
  | nil => rfl
  | cons piece rest ih =>
    cases piece with
    | text s => exact ih hmode h
    | slot hint v =>
      have hrest := ih hmode h
      rw [placedNames] at hrest ⊢
      rw [placed, bind_inline hmode, List.map_cons, hrest]
      rfl
    | supply params => exact ih (b := b.merge params) hmode h
    | refusal e => simp at h

/-- A value in a text: what stands for it with placeholders, and the text up to the next value. -/
structure ValuePlace where
  name : String
  value : Value
  after : String

namespace Builder

/-- The values of a draft with what stands for them and the text after each. -/
def places (b : Builder) (s : Draft) : List ValuePlace :=
  List.zipWith (fun p gap => ⟨p.1, p.2, gap⟩) (b.placed s) (s.fragment b.dialect b.schema).gaps

variable {b : Builder} {s : Draft} {out : Built}

lemma length_placed (h : b.write s = .ok out) :
    (b.placed s).length = (s.fragment b.dialect b.schema).values.length := by
  rw [← Binding.map_snd_placed (b := b.startFor s) (error?_eq_none_of_write h), List.length_map]
  rfl

/-- Each value of a written draft has its place. -/
lemma map_places (h : b.write s = .ok out) :
    ((b.places s).map fun p => (p.name, p.value)) = b.placed s := by
  have hlength : (b.placed s).length = (s.fragment b.dialect b.schema).gaps.length := by
    rw [length_placed h, length_gaps]
  have hfst : ((b.placed s).zip (s.fragment b.dialect b.schema).gaps).map Prod.fst = b.placed s :=
    List.map_fst_zip hlength.le
  rw [List.zip, List.map_zipWith] at hfst
  rw [places, List.map_zipWith]
  exact hfst

lemma map_name_places (h : b.write s = .ok out) :
    (b.places s).map ValuePlace.name = (b.placed s).map Prod.fst := by
  rw [← map_places h, List.map_map]
  rfl

lemma map_value_places (h : b.write s = .ok out) :
    (b.places s).map ValuePlace.value = (s.fragment b.dialect b.schema).values := by
  rw [← Binding.map_snd_placed (b := b.startFor s) (error?_eq_none_of_write h)]
  change _ = (b.placed s).map Prod.snd
  rw [← map_places h, List.map_map]
  rfl

/-- The text behind a value is that up to the next slot. -/
lemma map_after_places (h : b.write s = .ok out) :
    (b.places s).map ValuePlace.after = (s.fragment b.dialect b.schema).gaps := by
  have hlength : (s.fragment b.dialect b.schema).gaps.length = (b.placed s).length := by
    rw [length_placed h, length_gaps]
  have hsnd : ((b.placed s).zip (s.fragment b.dialect b.schema).gaps).map Prod.snd =
      (s.fragment b.dialect b.schema).gaps := List.map_snd_zip hlength.le
  rw [List.zip, List.map_zipWith] at hsnd
  rw [places, List.map_zipWith]
  exact hsnd

/-- The text of a draft with any texts in the places of its values. -/
lemma fill_eq_places (h : b.write s = .ok out) (text : ValuePlace → String) :
    (s.fragment b.dialect b.schema).fill ((b.places s).map text) =
      (s.fragment b.dialect b.schema).lead ++
        String.join ((b.places s).map fun p => text p ++ p.after) := by
  have hlength :
      ((b.places s).map text).length = (s.fragment b.dialect b.schema).values.length := by
    rw [← map_value_places h, List.length_map, List.length_map]
  rw [fill_eq (error?_eq_none_of_write h) hlength, ← map_after_places h, List.zipWith_map,
    List.zipWith_self]

/-- Both modes refuse a draft with the same error, or both write it. The two texts then share the
text around the values, the values stand in one as placeholders and in the other as literals, each
placeholder is bound to its own value and is no name that comes with the draft, and inline only the
parameters that come with the draft are left. -/
theorem modes_agree (d : Dialect) (schema : Option SchemaRegistry) (s : Draft) :
    match (⟨d, schema, false⟩ : Builder).write s, (⟨d, schema, true⟩ : Builder).write s with
    | .ok bound, .ok inlined =>
      ∃ (first : String) (places : List ValuePlace),
        bound.sql = first ++ String.join (places.map fun p => p.name ++ p.after) ∧
        inlined.sql = first ++ String.join (places.map fun p => d.literal p.value ++ p.after) ∧
        (places.map fun p => (p.name, p.value)) = (⟨d, schema, false⟩ : Builder).placed s ∧
        (places.map (·.name)).Nodup ∧
        (∀ p ∈ places, (p.name, Binding.boundValue d p.value) ∈ bound.allParams.toList ∧
          ∀ m ∈ s.maps, p.name ∉ m.names) ∧
        inlined.allParams = Params.merged s.maps
    | .error e, .error e' => e = e'
    | _, _ => False := by
  cases he : error? (s.fragment d schema) with
  | some e => simp [write_eq_match, he]
  | none =>
    let bound : Builder := ⟨d, schema, false⟩
    let inlined : Builder := ⟨d, schema, true⟩
    obtain ⟨outBound, hbound⟩ : ∃ out, bound.write s = .ok out := ⟨_, by rw [write_eq_match, he]⟩
    obtain ⟨outInlined, hinlined⟩ : ∃ out, inlined.write s = .ok out :=
      ⟨_, by rw [write_eq_match, he]⟩
    simp only [bound, inlined] at hbound hinlined
    rw [hbound, hinlined]
    have hplaces := map_places hbound
    refine ⟨lead (s.fragment d schema), bound.places s, ?_, ?_, hplaces, ?_, ?_, ?_⟩
    · rw [sql_of_write hbound, ← map_name_places hbound]
      exact fill_eq_places hbound ValuePlace.name
    · have hliterals : (inlined.placed s).map Prod.fst =
          (bound.places s).map fun p => d.literal p.value := by
        have hvalues := congrArg (List.map d.literal) (map_value_places hbound)
        rw [List.map_map] at hvalues
        exact (Binding.placedNames_inline (b := inlined.startFor s) rfl he).trans hvalues.symm
      rw [sql_of_write hinlined, hliterals]
      exact fill_eq_places hbound fun p => d.literal p.value
    · rw [map_name_places hbound]
      exact nodup_placed rfl
    · intro p hp
      have hp' : (p.name, p.value) ∈ bound.placed s := hplaces ▸ List.mem_map_of_mem hp
      exact ⟨(mem_allParams rfl hbound).mpr (.inl ⟨p.value, hp', rfl⟩),
        fun m hm => placed_not_supplied rfl hp' hm⟩
    · rw [allParams_of_write hinlined,
        Binding.write_params_inline (b := inlined.startFor s) rfl he, s.supplies_fragment he]
      rfl

end Builder

end SqlCompose
