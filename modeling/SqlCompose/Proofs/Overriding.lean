import Mathlib
import SqlCompose.Proofs.Parameters

/-!
# Names given twice

The maps of all parts of a draft end in one map. A name that several of them give ends with the
value of the last one in the order in which the parts are visited, in both modes, and nothing else
changes it: no placeholder takes the name of a part. A part therefore keeps its value unless a part
visited later gives the same name another one.
-/

namespace SqlCompose

namespace Builder

variable {b : Builder} {s : Draft} {out : Built}

/-- What is bound to a supplied name is what the maps of the draft taken together give it. -/
lemma mem_allParams_of_supplied (h : b.write s = .ok out) {n : String} {v : Value}
    (hn : ∃ m ∈ s.maps, n ∈ m.names) :
    (n, v) ∈ out.allParams.toList ↔ (n, v) ∈ (Params.merged s.maps).toList := by
  cases hmode : b.inlineValues with
  | true =>
    have herror := error?_eq_none_of_write h
    rw [allParams_of_write h, Binding.write_params_inline (b := b.startFor s) hmode herror,
      s.supplies_fragment herror]
    rfl
  | false =>
    obtain ⟨m, hm, hname⟩ := hn
    rw [mem_allParams hmode h]
    constructor
    · rintro (⟨w, hw, -⟩ | hmerged)
      · exact absurd hname (placed_not_supplied hmode hw hm)
      · exact hmerged
    · exact .inr

/-- A supplied name ends with the value of the last map that gives it. So a supplied pair is kept
when no map after its own gives the name another value. -/
theorem last_supplied_kept (h : b.write s = .ok out) :
    (∀ n v, (∃ m ∈ s.maps, n ∈ m.names) →
      ((n, v) ∈ out.allParams.toList ↔ Params.IsLastGiven s.maps n v)) ∧
    (∀ earlier m later, s.maps = earlier ++ m :: later → ∀ n v, (n, v) ∈ m.toList →
      (∀ m' ∈ later, ∀ w, (n, w) ∈ m'.toList → w = v) → (n, v) ∈ out.allParams.toList) := by
  constructor
  · intro n v hn
    rw [mem_allParams_of_supplied h hn, Params.mem_merged]
  · intro earlier m later hmaps n v hv hagree
    have hname : ∃ m ∈ s.maps, n ∈ m.names :=
      ⟨m, by simp [hmaps], Params.mem_names.mpr ⟨v, hv⟩⟩
    rw [mem_allParams_of_supplied h hname, hmaps]
    exact Params.mem_merged_of_agree hv hagree

/-- A query whose condition and whose sub-query both name a parameter `:a`. -/
def sharedName : Query :=
  let inner : Query := { Query.empty with
    tables := [⟨.table "u", none⟩], filter := some (.raw "x = :a" (.ofList [("a", .int 2)])) }
  { Query.empty with
    tables := [⟨.table "t", none⟩]
    filter := some (.and [.raw "y = :a" (.ofList [("a", .int 1)]), .inQuery "id" inner]) }

lemma build_sharedName : (⟨.mysql, none, false⟩ : Builder).build (.select sharedName) =
    .ok ⟨"SELECT * FROM `t` WHERE (y = :a) AND `id` IN (SELECT * FROM `u` WHERE x = :a)",
      some (.ofList [("a", .int 2)])⟩ := by
  rfl

/-- Both run with the value of the sub-query, which is visited last. -/
theorem last_supplied_kept_sharedName :
    ∃ out, (⟨.mysql, none, false⟩ : Builder).write (.statement (.select sharedName)) = .ok out ∧
      (Draft.statement (.select sharedName)).maps =
        [∅, .ofList [("a", .int 1)], ∅] ++ .ofList [("a", .int 2)] :: [] ∧
      (":a", .int 2) ∈ out.allParams.toList := by
  refine ⟨_, build_sharedName, by rfl, ?_⟩
  exact (last_supplied_kept (s := .statement (.select sharedName)) build_sharedName).2
    [∅, .ofList [("a", .int 1)], ∅] _ [] (by rfl) ":a" (.int 2) List.mem_cons_self (by simp)

/-- The pair of the condition around it is lost. -/
theorem not_every_supplied_pair_kept :
    ¬ ∀ (b : Builder) (q : Query) (out : Built), b.build (.select q) = .ok out →
      ∀ m ∈ q.maps, ∀ p ∈ m.toList, p ∈ out.allParams.toList := by
  intro hkept
  have hmap : Params.ofList [("a", .int 1)] ∈ sharedName.maps :=
    List.mem_cons_of_mem _ List.mem_cons_self
  have hlost : (":a", Value.int 1) ∈ [(":a", Value.int 2)] :=
    hkept _ _ _ build_sharedName _ hmap _ List.mem_cons_self
  simp at hlost

end Builder

end SqlCompose
