import Mathlib
import SqlCompose.Proofs.Draft

/-!
# The parameters of a written draft

With placeholders, the parameters of a draft are its placeholders, each with the value that it
stands for, and the parameters that come with the draft. No placeholder is the name of two values or
a name that comes with the draft, wherever in it that name stands. Inline, only the parameters that
come with the draft are left.
-/

namespace SqlCompose

open Fragment

namespace Builder

variable {b : Builder} {s : Draft} {out : Built}

/-- The names of a draft's own maps are reserved before it is written. -/
lemma reserved_of_supplied (h : b.write s = .ok out) :
    ∀ m ∈ supplies (s.fragment b.dialect b.schema), ∀ n ∈ m.names,
      n ∈ (b.startFor s).reserved := by
  intro m hm n hn
  rw [s.supplies_fragment (error?_eq_none_of_write h)] at hm
  rw [startFor_reserved]
  exact List.mem_flatMap.mpr ⟨m, hm, hn⟩

/-- A parameter is a placeholder with its value or comes with the draft. -/
lemma mem_allParams (hmode : b.inlineValues = false) (h : b.write s = .ok out) {n : String}
    {v : Value} :
    (n, v) ∈ out.allParams.toList ↔
      (∃ w, (n, w) ∈ b.placed s ∧ v = Binding.boundValue b.dialect w) ∨
        (n, v) ∈ (Params.merged s.maps).toList := by
  have herror := error?_eq_none_of_write h
  rw [allParams_of_write h, Binding.mem_write_params (b := b.startFor s) hmode herror
    (reserved_of_supplied h), s.supplies_fragment herror]
  simp [placed]

/-- A placeholder is never the name of a parameter that comes with the draft. -/
lemma placed_not_supplied (hmode : b.inlineValues = false) {p : String × Value}
    (hp : p ∈ b.placed s) {m : Params} (hm : m ∈ s.maps) : p.1 ∉ m.names := by
  intro hn
  have hname : p.1 ∈ (b.startFor s).placedNames (s.fragment b.dialect b.schema) :=
    List.mem_map_of_mem hp
  refine (Binding.placedNames_fresh (b := b.startFor s) hmode hname).2 ?_
  rw [startFor_reserved]
  exact List.mem_flatMap.mpr ⟨m, hm, hn⟩

lemma nodup_placed (hmode : b.inlineValues = false) : ((b.placed s).map Prod.fst).Nodup :=
  Binding.nodup_placedNames (b := b.startFor s) hmode

/-- Every value of a written draft has a placeholder in the text. The placeholders are all
different, none of them is a name that comes with the draft, and each is bound to its own value in
the end. The other parameters have exactly the names that come with the draft, each with a value
that one of the draft's maps gives it. -/
theorem placeholders_fresh_and_kept (hmode : b.inlineValues = false) (h : b.write s = .ok out) :
    (b.placed s).map Prod.snd = (s.fragment b.dialect b.schema).values ∧
    out.sql = (s.fragment b.dialect b.schema).fill ((b.placed s).map Prod.fst) ∧
    ((b.placed s).map Prod.fst).Nodup ∧
    (∀ p ∈ b.placed s, ∀ m ∈ s.maps, p.1 ∉ m.names) ∧
    (∀ p ∈ b.placed s, (p.1, Binding.boundValue b.dialect p.2) ∈ out.allParams.toList) ∧
    (∀ n, n ∈ out.allParams.names ∧ n ∉ (b.placed s).map Prod.fst ↔ ∃ m ∈ s.maps, n ∈ m.names) ∧
    (∀ e ∈ out.allParams.toList, e.1 ∉ (b.placed s).map Prod.fst → ∃ m ∈ s.maps, e ∈ m.toList) := by
  refine ⟨Binding.map_snd_placed (error?_eq_none_of_write h), sql_of_write h, nodup_placed hmode,
    fun p hp m hm => placed_not_supplied hmode hp hm,
    fun p hp => (mem_allParams hmode h).mpr (.inl ⟨p.2, hp, rfl⟩), ?_, ?_⟩
  · intro n
    constructor
    · rintro ⟨hname, hplaced⟩
      obtain ⟨v, hv⟩ := Params.mem_names.mp hname
      rcases (mem_allParams hmode h).mp hv with ⟨w, hw, -⟩ | hmerged
      · exact absurd (List.mem_map_of_mem (f := Prod.fst) hw) hplaced
      · exact Params.mem_names_merged.mp (Params.mem_names.mpr ⟨v, hmerged⟩)
    · rintro ⟨m, hm, hn⟩
      obtain ⟨v, hv⟩ := Params.mem_names.mp (Params.mem_names_merged.mpr ⟨m, hm, hn⟩)
      refine ⟨Params.mem_names.mpr ⟨v, (mem_allParams hmode h).mpr (.inr hv)⟩, ?_⟩
      intro hplaced
      obtain ⟨p, hp, rfl⟩ := List.mem_map.mp hplaced
      exact placed_not_supplied hmode hp hm hn
  · intro e he hn
    rcases (mem_allParams hmode h).mp he with ⟨w, hw, -⟩ | hmerged
    · exact absurd (List.mem_map_of_mem (f := Prod.fst) hw) hn
    · exact Params.exists_mem_of_mem_merged hmerged

/-- A comparison whose first placeholder is taken by a verbatim condition after it. -/
def takenName : Draft :=
  .condition (.and [.compare "a" .eq (.value (.bool true)),
    .raw "x = :a1" (.ofList [(":a1", .int 7)])])

/-- The placeholder steps aside, and both parameters keep their values. -/
theorem placeholders_fresh_and_kept_takenName :
    ∃ out, (⟨.pgsql, none, false⟩ : Builder).write takenName = .ok out ∧
      out.allParams.toList = [(":a2", .text "TRUE"), (":a1", .int 7)] ∧
      (":a2", Binding.boundValue .pgsql (.bool true)) ∈ out.allParams.toList ∧
      ∀ m ∈ takenName.maps, ":a2" ∉ m.names := by
  refine ⟨⟨"\"a\" = :a2 AND (x = :a1)", some (.ofList [(":a2", .text "TRUE"), (":a1", .int 7)])⟩,
    by rfl, by rfl, ?_⟩
  obtain ⟨-, -, -, hfresh, hkept, -⟩ := placeholders_fresh_and_kept
    (b := ⟨.pgsql, none, false⟩) (s := takenName) rfl (by rfl)
  have hplaced : (":a2", Value.bool true) ∈
      (⟨.pgsql, none, false⟩ : Builder).placed takenName := by
    exact List.mem_cons_self
  exact ⟨hkept _ hplaced, hfresh _ hplaced⟩

end Builder

end SqlCompose
