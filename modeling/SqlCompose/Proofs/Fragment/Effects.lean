import Mathlib
import SqlCompose.Statement
import SqlCompose.Proofs.Binding.Write

/-!
# Effects of fragments

What writing a fragment does besides adding text: its slots, its supplied parameters and its
refusals. Putting fragments together, dropping what has no text, trimming and adding parentheses
change the text only, so the effects of a compound fragment are those of its parts, in order.
-/

namespace SqlCompose

def Piece.isText : Piece → Bool
  | .text _ => true
  | _ => false

namespace Fragment

/-- The pieces that are no text. -/
def effects (f : Fragment) : Fragment := f.filter (!·.isText)

@[simp] lemma effects_nil : effects [] = [] := rfl

@[simp] lemma effects_append (f g : Fragment) : effects (f ++ g) = effects f ++ effects g :=
  List.filter_append ..

@[simp] lemma effects_text_cons (s : String) (f : Fragment) :
    effects (.text s :: f) = effects f := rfl

@[simp] lemma effects_slot_cons (hint : String) (v : Value) (f : Fragment) :
    effects (.slot hint v :: f) = .slot hint v :: effects f := rfl

@[simp] lemma effects_supply_cons (params : Params) (f : Fragment) :
    effects (.supply params :: f) = .supply params :: effects f := rfl

@[simp] lemma effects_refusal_cons (e : QueryError) (f : Fragment) :
    effects (.refusal e :: f) = .refusal e :: effects f := rfl

/-! ### Compound fragments -/

@[simp] lemma effects_bracket (f : Fragment) : effects (bracket f) = effects f := by
  simp [bracket]

@[simp] lemma effects_after (keyword : String) (f : Fragment) :
    effects (after keyword f) = effects f := rfl

@[simp] lemma effects_join (sep : String) (fs : List Fragment) :
    effects (join sep fs) = fs.flatMap effects := by
  unfold join
  induction fs with
  | nil => rfl
  | cons f fs ih =>
    cases fs with
    | nil => simp
    | cons g gs =>
      rw [List.intercalate_cons_cons, effects_append, effects_append, ih]
      simp

/-- A separator is text, so joining keeps the effects in order. -/
lemma effects_joinFrom (sep : String) (started : Bool) (fs : List Fragment) :
    effects (joinFrom sep started fs) = fs.flatMap effects := by
  induction fs generalizing started with
  | nil => rfl
  | cons f fs ih =>
    rw [joinFrom, List.flatMap_cons]
    split
    · rw [effects_append, ih]
    · rw [effects_append, effects_append, ih]
      cases started <;> simp

@[simp] lemma effects_joinNonBlank (sep : String) (fs : List Fragment) :
    effects (joinNonBlank sep fs) = fs.flatMap effects := effects_joinFrom ..

/-- Trimming drops text only. -/
lemma effects_trimReversed (f : Fragment) : effects (trimReversed f) = effects f := by
  induction f with
  | nil => rfl
  | cons piece rest ih =>
    cases piece with
    | text s =>
      simp only [trimReversed]
      split
      · simpa using ih
      · simp
    | slot hint v => rfl
    | supply params => simp [trimReversed, ih]
    | refusal e => rfl

@[simp] lemma effects_trimEnd (f : Fragment) : effects (trimEnd f) = effects f := by
  have hreverse (g : Fragment) : effects g.reverse = (effects g).reverse :=
    List.filter_reverse ..
  rw [trimEnd, hreverse, effects_trimReversed, hreverse, List.reverse_reverse]

@[simp] lemma effects_clause (keyword : String) (f : Fragment) :
    effects (clause keyword f) = effects f := by
  unfold clause
  split <;> simp

@[simp] lemma effects_listClause (keyword : String) (fs : List Fragment) :
    effects (listClause keyword fs) = fs.flatMap effects := by
  unfold listClause
  split
  · rename_i h
    simp [List.isEmpty_iff.mp h]
  · simp

@[simp] lemma effects_group (conjunction : Bool) (members : List (Bool × Fragment)) :
    effects (group conjunction members) = members.flatMap fun m => effects m.2 := by
  rw [group, effects_joinNonBlank, List.flatMap_map]
  congr 1
  funext ⟨brackets, f⟩
  dsimp only
  split <;> simp

@[simp] lemma effects_whereClause (d : Dialect) (filter : Option Condition) :
    effects (whereClause d filter) = effects (filterFragment d filter) := by
  unfold whereClause
  dsimp only
  split <;> simp

/-! ### Errors are effects -/

lemma error?_eq_none_iff {f : Fragment} : error? f = none ↔ ∀ p ∈ f, p.error? = none :=
  List.findSome?_eq_none_iff

/-- What is blank refuses nothing. -/
lemma error?_eq_none_of_isBlank {f : Fragment} (h : f.isBlank = true) : error? f = none := by
  rw [isBlank, List.all_eq_true] at h
  rw [error?_eq_none_iff]
  intro piece hpiece
  cases piece with
  | text | slot | supply => rfl
  | refusal e => exact absurd (h _ hpiece) (by simp [Piece.isBlank])

/-- A refusal is an effect. -/
lemma error?_effects (f : Fragment) : error? (effects f) = none ↔ error? f = none := by
  rw [error?_eq_none_iff, error?_eq_none_iff]
  constructor
  · intro h p hp
    cases p with
    | text s => rfl
    | _ => exact h _ (List.mem_filter.mpr ⟨hp, rfl⟩)
  · intro h p hp
    exact h p (List.mem_of_mem_filter hp)

/-- A compound fragment refuses nothing if none of its parts does. -/
lemma error?_eq_none_of_effects {f : Fragment} {fs : List Fragment}
    (h : effects f = fs.flatMap effects) : error? f = none ↔ ∀ g ∈ fs, error? g = none := by
  rw [← error?_effects, h, error?_eq_none_iff]
  constructor
  · intro hall g hg
    rw [← error?_effects, error?_eq_none_iff]
    exact fun p hp => hall p (List.mem_flatMap.mpr ⟨g, hg, hp⟩)
  · intro hall p hp
    obtain ⟨g, hg, hp⟩ := List.mem_flatMap.mp hp
    exact error?_eq_none_iff.mp ((error?_effects g).mpr (hall g hg)) p hp

@[simp] lemma error?_bracket (f : Fragment) : error? (bracket f) = none ↔ error? f = none := by
  rw [← error?_effects, effects_bracket, error?_effects]

@[simp] lemma error?_after (keyword : String) (f : Fragment) :
    error? (after keyword f) = error? f := rfl

@[simp] lemma error?_join (sep : String) (fs : List Fragment) :
    error? (join sep fs) = none ↔ ∀ f ∈ fs, error? f = none :=
  error?_eq_none_of_effects (effects_join sep fs)

@[simp] lemma error?_joinNonBlank (sep : String) (fs : List Fragment) :
    error? (joinNonBlank sep fs) = none ↔ ∀ f ∈ fs, error? f = none :=
  error?_eq_none_of_effects (effects_joinNonBlank sep fs)

@[simp] lemma error?_trimEnd (f : Fragment) : error? (trimEnd f) = none ↔ error? f = none := by
  rw [← error?_effects, effects_trimEnd, error?_effects]

@[simp] lemma error?_clause (keyword : String) (f : Fragment) :
    error? (clause keyword f) = none ↔ error? f = none := by
  rw [← error?_effects, effects_clause, error?_effects]

@[simp] lemma error?_listClause (keyword : String) (fs : List Fragment) :
    error? (listClause keyword fs) = none ↔ ∀ f ∈ fs, error? f = none :=
  error?_eq_none_of_effects (effects_listClause keyword fs)

@[simp] lemma error?_group (conjunction : Bool) (members : List (Bool × Fragment)) :
    error? (group conjunction members) = none ↔ ∀ m ∈ members, error? m.2 = none := by
  have heffects : effects (group conjunction members) =
      (members.map Prod.snd).flatMap effects := by
    rw [effects_group, List.flatMap_map]
  rw [error?_eq_none_of_effects heffects]
  simp only [List.mem_map, forall_exists_index, and_imp, forall_apply_eq_imp_iff₂]

@[simp] lemma error?_whereClause (d : Dialect) (filter : Option Condition) :
    error? (whereClause d filter) = none ↔ error? (filterFragment d filter) = none := by
  rw [← error?_effects, effects_whereClause, error?_effects]

/-! ### Supplied parameters are effects -/

lemma supplies_effects (f : Fragment) : supplies (effects f) = supplies f := by
  unfold supplies effects
  rw [List.filterMap_filter]
  congr 1
  funext p
  cases p <;> rfl

/-- A compound fragment supplies what its parts supply, in order. -/
lemma supplies_of_effects {f : Fragment} {fs : List Fragment}
    (h : effects f = fs.flatMap effects) : supplies f = fs.flatMap supplies := by
  rw [← supplies_effects, h, supplies, List.filterMap_flatMap]
  exact List.flatMap_congr fun g _ => supplies_effects g

@[simp] lemma supplies_nil : supplies [] = [] := rfl

@[simp] lemma supplies_append (f g : Fragment) : supplies (f ++ g) = supplies f ++ supplies g :=
  List.filterMap_append ..

@[simp] lemma supplies_text_cons (s : String) (f : Fragment) :
    supplies (.text s :: f) = supplies f := rfl

@[simp] lemma supplies_slot_cons (hint : String) (v : Value) (f : Fragment) :
    supplies (.slot hint v :: f) = supplies f := rfl

@[simp] lemma supplies_supply_cons (params : Params) (f : Fragment) :
    supplies (.supply params :: f) = params :: supplies f := rfl

@[simp] lemma supplies_refusal_cons (e : QueryError) (f : Fragment) :
    supplies (.refusal e :: f) = supplies f := rfl

@[simp] lemma supplies_bracket (f : Fragment) : supplies (bracket f) = supplies f := by
  simp [bracket]

@[simp] lemma supplies_after (keyword : String) (f : Fragment) :
    supplies (after keyword f) = supplies f := rfl

@[simp] lemma supplies_join (sep : String) (fs : List Fragment) :
    supplies (join sep fs) = fs.flatMap supplies :=
  supplies_of_effects (effects_join sep fs)

@[simp] lemma supplies_joinNonBlank (sep : String) (fs : List Fragment) :
    supplies (joinNonBlank sep fs) = fs.flatMap supplies :=
  supplies_of_effects (effects_joinNonBlank sep fs)

@[simp] lemma supplies_trimEnd (f : Fragment) : supplies (trimEnd f) = supplies f := by
  rw [← supplies_effects, effects_trimEnd, supplies_effects]

@[simp] lemma supplies_clause (keyword : String) (f : Fragment) :
    supplies (clause keyword f) = supplies f := by
  rw [← supplies_effects, effects_clause, supplies_effects]

@[simp] lemma supplies_listClause (keyword : String) (fs : List Fragment) :
    supplies (listClause keyword fs) = fs.flatMap supplies :=
  supplies_of_effects (effects_listClause keyword fs)

@[simp] lemma supplies_group (conjunction : Bool) (members : List (Bool × Fragment)) :
    supplies (group conjunction members) = members.flatMap fun m => supplies m.2 := by
  have heffects : effects (group conjunction members) =
      (members.map Prod.snd).flatMap effects := by
    rw [effects_group, List.flatMap_map]
  rw [supplies_of_effects heffects, List.flatMap_map]

@[simp] lemma supplies_whereClause (d : Dialect) (filter : Option Condition) :
    supplies (whereClause d filter) = supplies (filterFragment d filter) := by
  rw [← supplies_effects, effects_whereClause, supplies_effects]

end Fragment

/-! ### What is placed depends on effects -/

/-- What is placed depends on the effects only. -/
lemma Binding.placed_effects (b : Binding) (f : Fragment) : b.placed f.effects = b.placed f := by
  induction f generalizing b with
  | nil => rfl
  | cons piece rest ih =>
    cases piece with
    | text s => exact ih b
    | slot hint v => exact congrArg (_ :: ·) (ih _)
    | supply params => exact ih _
    | refusal e => rfl

end SqlCompose
