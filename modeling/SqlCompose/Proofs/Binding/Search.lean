import Mathlib
import SqlCompose.Proofs.Binding.Fresh

/-!
# The search for a placeholder

The number of a placeholder is found by a loop that has no bound of its own: it counts on from the
last number until the name is free. Names of one hint differ where their numbers differ, so at most
as many rounds fail as there are bound and reserved names. The loop therefore ends, it ends at the
least free number, and what is bound then is what was bound before and the value under the new name.
-/

namespace SqlCompose

namespace Binding

variable {b : Binding} {hint : String} {v : Value}

/-- Whether the placeholder of a number is neither bound nor reserved. -/
def IsFree (b : Binding) (hint : String) (number : Nat) : Prop :=
  placeholder (base hint) number ∉ b.params.names ∧ placeholder (base hint) number ∉ b.reserved

instance {number : Nat} : Decidable (b.IsFree hint number) := inferInstanceAs (Decidable (_ ∧ _))

/-- The search from a number on: how many rounds it takes, and the number that it ends at. -/
inductive Searches (b : Binding) (hint : String) : (start rounds found : Nat) → Prop
  | found {start : Nat} (h : b.IsFree hint (start + 1)) : b.Searches hint start 1 (start + 1)
  | next {start rounds found : Nat} (h : ¬b.IsFree hint (start + 1))
      (hs : b.Searches hint (start + 1) rounds found) : b.Searches hint start (rounds + 1) found

/-- The search passes over a number exactly if its placeholder is bound or reserved. -/
lemma isTaken_placeholder_iff {number : Nat} :
    b.isTaken (placeholder (base hint) number) = true ↔ ¬b.IsFree hint number := by
  rw [isTaken_iff, List.mem_append, IsFree, not_and_or, not_not, not_not]

/-! ### Where a search ends -/

variable {start rounds found number : Nat}

/-- A search ends at the least free number behind its start, after one round for each number. -/
lemma Searches.isLeast (h : b.Searches hint start rounds found) :
    IsLeast {number | start < number ∧ b.IsFree hint number} found ∧ start + rounds = found := by
  induction h with
  | found h => exact ⟨⟨⟨Nat.lt_succ_self _, h⟩, fun _ hnumber => hnumber.1⟩, rfl⟩
  | @next start rounds found h _ ih =>
    obtain ⟨⟨⟨hlt, hfree⟩, hleast⟩, hrounds⟩ := ih
    refine ⟨⟨⟨by omega, hfree⟩, ?_⟩, by omega⟩
    rintro number ⟨hnumber, hnumberFree⟩
    apply hleast
    refine ⟨lt_of_le_of_ne hnumber ?_, hnumberFree⟩
    -- the first number is taken, so a free one is behind it
    rintro rfl
    exact h hnumberFree

/-- The least free number is found, whatever number stands between it and the start. -/
lemma searches_of_isLeast
    (h : IsLeast {number | start < number ∧ b.IsFree hint number} (start + rounds)) :
    b.Searches hint start rounds (start + rounds) := by
  induction rounds generalizing start with
  | zero => exact absurd h.1.1 (lt_irrefl start)
  | succ rounds ih =>
    by_cases hfree : b.IsFree hint (start + 1)
    · have hle : start + (rounds + 1) ≤ start + 1 := h.2 ⟨Nat.lt_succ_self start, hfree⟩
      obtain rfl : rounds = 0 := by omega
      exact .found hfree
    · have hne : start + (rounds + 1) ≠ start + 1 := fun heq => hfree (heq ▸ h.1.2)
      have hshift : start + (rounds + 1) = start + 1 + rounds := by omega
      rw [hshift] at h hne ⊢
      apply Searches.next hfree
      apply ih
      refine ⟨⟨lt_of_le_of_ne (by omega) (Ne.symm hne), h.1.2⟩, ?_⟩
      rintro number ⟨hlt, hnumber⟩
      exact h.2 ⟨(Nat.lt_succ_self start).trans hlt, hnumber⟩

/-- A search that ends is determined by the least free number. -/
lemma searches_iff (h : IsLeast {number | start < number ∧ b.IsFree hint number} number) :
    b.Searches hint start rounds found ↔ found = number ∧ start + rounds = number := by
  constructor
  · intro hs
    obtain ⟨hleast, hrounds⟩ := hs.isLeast
    obtain rfl := hleast.unique h
    exact ⟨rfl, hrounds⟩
  · rintro ⟨rfl, rfl⟩
    exact searches_of_isLeast h

/-! ### The number that is bound -/

/-- Every number that is passed over is taken. -/
lemma taken_of_lt_freeNumber {taken : String → Bool} {base : String}
    (hlt : start < number) (h : number < freeNumber taken base rounds start) :
    taken (placeholder base number) = true := by
  induction rounds generalizing start with
  | zero =>
    rw [freeNumber] at h
    omega
  | succ rounds ih =>
    rw [freeNumber] at h
    split at h
    · rename_i hfirst
      obtain rfl | hbehind := Nat.eq_or_lt_of_le hlt
      · exact hfirst
      · exact ih hbehind h
    · omega

/-- The search never goes back to a number already used. -/
lemma lt_freeNumber (taken : String → Bool) (base : String) (rounds start : Nat) :
    start < freeNumber taken base rounds start := by
  induction rounds generalizing start with
  | zero => exact Nat.lt_succ_self start
  | succ rounds ih =>
    rw [freeNumber]
    split
    · exact (Nat.lt_succ_self start).trans (ih (start + 1))
    · exact Nat.lt_succ_self start

/-- The number that is taken is the least free one after the counter. -/
lemma isLeast_nextNumber (b : Binding) (hint : String) :
    IsLeast {number | b.counter < number ∧ b.IsFree hint number} (b.nextNumber hint) := by
  refine ⟨⟨lt_freeNumber _ _ _ _, b.freshName_not_mem_names hint,
    b.freshName_not_mem_reserved hint⟩, ?_⟩
  rintro number ⟨hlt, hfree⟩
  by_contra hbefore
  have htaken := taken_of_lt_freeNumber hlt (not_le.mp hbefore)
  exact isTaken_placeholder_iff.mp htaken hfree

/-- All rounds but the last one pass over a name that is taken. -/
lemma rounds_le_of_isLeast
    (h : IsLeast {number | start < number ∧ b.IsFree hint number} (start + rounds)) :
    rounds ≤ b.params.size + b.reserved.dedup.length + 1 := by
  have hpassed : ∀ k < rounds - 1,
      b.isTaken (placeholder (base hint) (start + 1 + k)) = true := by
    intro k hk
    rw [isTaken_placeholder_iff]
    intro hfree
    have hle : start + rounds ≤ start + 1 + k := h.2 ⟨by omega, hfree⟩
    omega
  have hcount := le_of_forall_isTaken hpassed
  omega

/-- A value is bound under the least number whose name is free. The search for it ends after at
most one round more than there are bound and reserved names. What was bound stays as it was, and the
value stands behind it. -/
theorem bind_least (h : b.inline = false) (hint : String) (v : Value) :
    ∃ rounds number,
      (∀ r n, b.Searches hint b.counter r n ↔ r = rounds ∧ n = number) ∧
      rounds ≤ b.params.size + b.reserved.dedup.length + 1 ∧
      IsLeast {n | b.counter < n ∧ b.IsFree hint n} number ∧
      (b.bind hint v).1 = placeholder (base hint) number ∧
      (b.bind hint v).2 = { b with counter := number, params := (b.bind hint v).2.params } ∧
      (b.bind hint v).2.params.toList =
        b.params.toList ++ [(placeholder (base hint) number, boundValue b.dialect v)] := by
  have hleast := b.isLeast_nextNumber hint
  obtain ⟨rounds, hrounds⟩ := Nat.exists_eq_add_of_le hleast.1.1.le
  refine ⟨rounds, b.nextNumber hint, fun r n => ?_, ?_, hleast, bind_fst h, ?_, ?_⟩
  · rw [searches_iff hleast, hrounds, Nat.add_left_cancel_iff, and_comm]
  · exact rounds_le_of_isLeast (hrounds ▸ hleast)
  · simp [bind, h]
  · have hnew : Params.normalize (b.freshName hint) ∉ b.params.names := by
      rw [normalize_freshName]
      exact b.freshName_not_mem_names hint
    rw [bind_snd_params h, Params.toList_insert_of_not_mem hnew, normalize_freshName, freshName]

/-- Two names are taken behind the last number, one of them reserved twice. -/
theorem bind_least_twoTaken :
    let b : Binding := ⟨.mssql, false, 1, .ofList [("id2", .int 7)], [":id3", ":id3"]⟩
    b.inline = false ∧
    (∀ r n, b.Searches "id" b.counter r n ↔ r = 3 ∧ n = 4) ∧
    3 ≤ b.params.size + b.reserved.dedup.length + 1 ∧
    (b.bind "id" (.bool true)).1 = ":id4" ∧
    (b.bind "id" (.bool true)).2.params.toList = [(":id2", .int 7), (":id4", .int 1)] := by
  intro b
  have hrun : b.Searches "id" b.counter 3 4 :=
    .next (by decide) (.next (by decide) (.found (by decide)))
  obtain ⟨rounds, number, hsearch, hrounds, -, hname, -, hparams⟩ :=
    bind_least (b := b) rfl "id" (.bool true)
  obtain ⟨rfl, rfl⟩ := (hsearch 3 4).mp hrun
  exact ⟨rfl, hsearch, hrounds, hname, hparams⟩

end Binding

end SqlCompose
