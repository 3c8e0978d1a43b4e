import Mathlib
import SqlCompose.Binding
import SqlCompose.Proofs.Params

/-!
# Fresh placeholders

The placeholder of a value is neither bound nor reserved. Two placeholders of one base differ where
their numbers differ, so among one number more than there are taken names, one is free; this is why
the rounds in which a number is looked for are enough.
-/

namespace SqlCompose

namespace Binding

variable {b : Binding} {hint : String} {v : Value}

/-! ### Placeholders -/

lemma toList_placeholder (base : String) (n : Nat) :
    (placeholder base n).toList = ':' :: (base.toList ++ (toString n).toList) := by
  simp [placeholder]

/-- A number is told by its placeholder. -/
lemma placeholder_injective (base : String) : Function.Injective (placeholder base) := by
  intro m n h
  have hchars := congrArg String.toList h
  rw [toList_placeholder, toList_placeholder, List.cons.injEq] at hchars
  have hdigits : (toString m).toList = (toString n).toList :=
    List.append_cancel_left hchars.2
  exact Nat.repr_injective (String.toList_injective hdigits)

@[simp] lemma normalize_placeholder (base : String) (n : Nat) :
    Params.normalize (placeholder base n) = placeholder base n := by
  simp [Params.normalize, toList_placeholder]

/-! ### The number of the next placeholder -/

/-- If even the number that is found is taken, so are all numbers that were looked at. -/
lemma taken_of_taken_freeNumber {taken : String → Bool} {base : String} {rounds n : Nat}
    (h : taken (placeholder base (freeNumber taken base rounds n)) = true) :
    ∀ k, k ≤ rounds → taken (placeholder base (n + 1 + k)) = true := by
  induction rounds generalizing n with
  | zero =>
    intro k hk
    obtain rfl : k = 0 := by omega
    exact h
  | succ rounds ih =>
    simp only [freeNumber] at h
    split at h
    · rename_i hfirst
      rintro (_ | k) hk
      · exact hfirst
      · rw [show n + 1 + (k + 1) = n + 1 + 1 + k by omega]
        exact ih h k (by omega)
    · rename_i hfirst
      exact absurd h hfirst

lemma isTaken_iff {name : String} :
    b.isTaken name = true ↔ name ∈ b.params.names ++ b.reserved := by
  simp [isTaken]

def freshName (b : Binding) (hint : String) : String := placeholder (base hint) (b.nextNumber hint)

/-- Numbers in a row whose placeholders are all taken are no more than the taken names. -/
lemma le_of_forall_isTaken {base : String} {start count : Nat}
    (h : ∀ k < count, b.isTaken (placeholder base (start + k)) = true) :
    count ≤ b.params.size + b.reserved.dedup.length := by
  let passed := (List.range count).map fun k => placeholder base (start + k)
  have hnodup : passed.Nodup := by
    apply List.nodup_range.map
    intro k l heq
    have hnumbers := placeholder_injective _ heq
    omega
  have hsubset : passed ⊆ b.params.names ++ b.reserved.dedup := by
    intro name hname
    obtain ⟨k, hk, rfl⟩ := List.mem_map.mp hname
    simpa using isTaken_iff.mp (h k (List.mem_range.mp hk))
  have hlength := (hnodup.subperm hsubset).length_le
  rwa [List.length_map, List.length_range, List.length_append, Params.length_names] at hlength

/-- The search for a placeholder ends at one that is not taken. -/
lemma freshName_not_taken (b : Binding) (hint : String) :
    b.freshName hint ∉ b.params.names ++ b.reserved := by
  intro hmem
  have hall := taken_of_taken_freeNumber (isTaken_iff.mpr hmem)
  -- one number more than there are taken names
  have hcount : b.params.size + b.reserved.length + 1 ≤ _ :=
    le_of_forall_isTaken fun k hk => hall k (Nat.le_of_lt_succ hk)
  have hdedup := (List.dedup_sublist b.reserved).length_le
  omega

lemma freshName_not_mem_names (b : Binding) (hint : String) :
    b.freshName hint ∉ b.params.names := fun h =>
  b.freshName_not_taken hint (List.mem_append_left _ h)

lemma freshName_not_mem_reserved (b : Binding) (hint : String) :
    b.freshName hint ∉ b.reserved := fun h =>
  b.freshName_not_taken hint (List.mem_append_right _ h)

@[simp] lemma normalize_freshName (b : Binding) (hint : String) :
    Params.normalize (b.freshName hint) = b.freshName hint := normalize_placeholder _ _

/-! ### Placing one value -/

lemma bind_inline (h : b.inline = true) : b.bind hint v = (b.dialect.literal v, b) := by
  simp [bind, h]

lemma bind_fst (h : b.inline = false) : (b.bind hint v).1 = b.freshName hint := by
  simp [bind, h, freshName]

lemma bind_snd_params (h : b.inline = false) :
    (b.bind hint v).2.params = b.params.insert (b.freshName hint) (boundValue b.dialect v) := by
  simp [bind, h, freshName]

@[simp] lemma bind_snd_inline : (b.bind hint v).2.inline = b.inline := by
  unfold bind; split <;> rfl

@[simp] lemma bind_snd_dialect : (b.bind hint v).2.dialect = b.dialect := by
  unfold bind; split <;> rfl

@[simp] lemma bind_snd_reserved : (b.bind hint v).2.reserved = b.reserved := by
  unfold bind; split <;> rfl

@[simp] lemma merge_params (params : Params) : (b.merge params).params = b.params.extend params :=
  rfl

@[simp] lemma merge_inline (params : Params) : (b.merge params).inline = b.inline := rfl

@[simp] lemma merge_dialect (params : Params) : (b.merge params).dialect = b.dialect := rfl

@[simp] lemma merge_reserved (params : Params) : (b.merge params).reserved = b.reserved := rfl

end Binding

end SqlCompose
