import Mathlib
import SqlCompose.Number.DoubleText
import SqlCompose.Proofs.Schema.Integer

/-!
# Decimal numerals

How numbers are written: digits, with or without a point and more digits behind it, and a minus sign
before what is negative. Integers and finite floats are written so. A float that is not finite is
written as a name.
-/

namespace SqlCompose

/-! ### Numerals -/

namespace Digits

/-- Digits, or digits on both sides of a point. -/
inductive IsNumeral : List Char → Prop
  | whole {s : List Char} (h : IsRun s) : IsNumeral s
  | point {s t : List Char} (hs : IsRun s) (ht : IsRun t) : IsNumeral (s ++ '.' :: t)

/-- A numeral with or without a minus sign. -/
inductive IsSigned : List Char → Prop
  | unsigned {s : List Char} (h : IsNumeral s) : IsSigned s
  | minus {s : List Char} (h : IsNumeral s) : IsSigned ('-' :: s)

variable {s t : List Char}

lemma isRun_zero : IsRun ['0'] := ⟨by simp, by simp [Char.isDigit]⟩

lemma IsRun.append_left (hs : ∀ c ∈ s, c.isDigit = true) (ht : IsRun t) : IsRun (s ++ t) where
  ne_nil h := ht.ne_nil (List.append_eq_nil_iff.mp h).2
  all := List.forall_mem_append.mpr ⟨hs, ht.all⟩

lemma IsRun.append_right (hs : IsRun s) (ht : ∀ c ∈ t, c.isDigit = true) : IsRun (s ++ t) where
  ne_nil h := hs.ne_nil (List.append_eq_nil_iff.mp h).1
  all := List.forall_mem_append.mpr ⟨hs.all, ht⟩

lemma isDigit_of_mem_zeros {n : ℕ} : ∀ c ∈ List.replicate n '0', c.isDigit = true := by
  intro c hc
  rw [List.eq_of_mem_replicate hc]
  rfl

lemma isRun_toDigits (n : ℕ) : IsRun (Nat.toDigits 10 n) where
  ne_nil := Nat.toDigits_ne_nil
  all _ hc := Nat.isDigit_of_mem_toDigits (by decide) (by decide) hc

lemma isRun_toString (n : ℕ) : IsRun (toString n).toList := by
  rw [Nat.toString_eq_ofList_toDigits, String.toList_ofList]
  exact isRun_toDigits n

lemma value_toDigits (n : ℕ) : value (Nat.toDigits 10 n) = n := Nat.ofDigitChars_ten_toDigits

/-- The digits of a positive number are not all zeros. -/
lemma exists_ne_zero_of_pos {n : ℕ} (hn : 0 < n) : ∃ c ∈ Nat.toDigits 10 n, c ≠ '0' := by
  by_contra hzeros
  push Not at hzeros
  have hall : Nat.toDigits 10 n = List.replicate (Nat.toDigits 10 n).length '0' :=
    List.eq_replicate_of_mem hzeros
  have hvalue (k : ℕ) : Nat.ofDigitChars 10 (List.replicate k '0') 0 = 0 := by
    induction k with
    | zero => rfl
    | succ k ih => exact ih
  have hself : Nat.ofDigitChars 10 (Nat.toDigits 10 n) 0 = n := Nat.ofDigitChars_ten_toDigits
  rw [hall, hvalue] at hself
  omega

/-- An integer is written as a numeral. -/
lemma isSigned_toString (i : ℤ) : IsSigned (toString i).toList := by
  cases i with
  | ofNat n => exact .unsigned (.whole (isRun_toString n))
  | negSucc n =>
    have hminus : (toString (Int.negSucc n)).toList = '-' :: (toString (n + 1)).toList :=
      String.toList_append ..
    rw [hminus]
    exact .minus (.whole (isRun_toString (n + 1)))

lemma IsSigned.ne_nil (h : IsSigned s) : s ≠ [] := by
  cases h with
  | unsigned h =>
    cases h with
    | whole h => exact h.ne_nil
    | point hs ht => simp
  | minus h => exact List.cons_ne_nil _ _

/-- A numeral has no letters. -/
lemma IsSigned.isDigit_or (h : IsSigned s) : ∀ c ∈ s, c.isDigit = true ∨ c ∈ ['.', '-'] := by
  have hnumeral {s : List Char} (h : IsNumeral s) : ∀ c ∈ s, c.isDigit = true ∨ c ∈ ['.', '-'] := by
    intro c hc
    cases h with
    | whole h => exact .inl (h.all c hc)
    | point hs ht =>
      rcases List.mem_append.mp hc with hc | hc
      · exact .inl (hs.all c hc)
      · rcases List.mem_cons.mp hc with rfl | hc
        · exact .inr List.mem_cons_self
        · exact .inl (ht.all c hc)
  cases h with
  | unsigned h => exact hnumeral h
  | minus h => exact List.forall_mem_cons.mpr ⟨.inr (by decide), hnumeral h⟩

end Digits

/-! ### Floats -/

namespace Double

open Digits

/-- A decimal that is found for a positive number has a digit. -/
lemma isRun_digits_of_decimalOfLength {tie : Tie} {closed : Bool} {num low high den n : ℕ}
    {d : Decimal} (hlow : 0 < low) (h : decimalOfLength tie closed num low high den n = some d) :
    IsRun d.digits := by
  unfold decimalOfLength at h
  dsimp only at h
  obtain ⟨m, hm, rfl⟩ := Option.map_eq_some_iff.mp h
  have hpos : 0 < m := by
    have hup (k : ℕ) : 0 < low * Nat.pow 10 k := Nat.mul_pos hlow (Nat.pow_pos (by decide))
    split_ifs at hm with habove hbelow
    · obtain rfl := Option.some.inj hm
      exact Nat.succ_pos _
    · obtain rfl := Option.some.inj hm
      rw [Nat.pos_iff_ne_zero]
      intro hzero
      -- zero lies below all numbers that round to a positive one
      simp only [hzero, Nat.zero_mul, Nat.not_lt_zero, decide_false, Bool.false_or,
        Bool.and_eq_true, beq_iff_eq] at hbelow
      exact (hup _).ne' hbelow.2
  constructor
  · intro hnil
    rw [List.reverse_eq_nil_iff, List.dropWhile_eq_nil_iff] at hnil
    obtain ⟨c, hc, hne⟩ := exists_ne_zero_of_pos hpos
    rw [Nat.toString_eq_ofList_toDigits, String.toList_ofList] at hnil
    exact hne (by simpa using hnil c (List.mem_reverse.mpr hc))
  · intro c hc
    have hmem := (List.dropWhile_sublist _).mem (List.mem_reverse.mp hc)
    exact (isRun_toString m).all c (List.mem_reverse.mp hmem)

/-- The shortest decimal of a number that is not zero has a digit. -/
lemma isRun_digits_shortest {tie : Tie} {significand exponent : ℕ} (h : significand ≠ 0) :
    IsRun (shortest tie significand exponent).digits := by
  have hlow (below : ℕ) (hbelow : below ≤ 2) :
      0 < (4 * significand - below) * Nat.pow 2 exponent := by
    apply Nat.mul_pos _ (Nat.pow_pos (by decide))
    omega
  unfold shortest
  dsimp only
  generalize hfound : List.findSome? _ (List.range 17) = found
  cases found with
  | none => exact isRun_zero
  | some d =>
    obtain ⟨n, -, hn⟩ := List.exists_of_findSome?_eq_some hfound
    exact isRun_digits_of_decimalOfLength (hlow _ (by split <;> decide)) hn

/-- The point stands between two digits. -/
lemma isNumeral_positional {d : Decimal} (h : IsRun d.digits) : IsNumeral (positional d) := by
  unfold positional
  dsimp only
  split_ifs with hpoint hwhole
  · exact .point isRun_zero (.append_left isDigit_of_mem_zeros h)
  · refine .point ⟨?_, fun c hc => h.all c (List.mem_of_mem_take hc)⟩
      ⟨?_, fun c hc => h.all c (List.mem_of_mem_drop hc)⟩
    · rw [Ne, List.take_eq_nil_iff, not_or]
      exact ⟨by omega, h.ne_nil⟩
    · rw [Ne, List.drop_eq_nil_iff]
      omega
  · exact .whole (.append_right h isDigit_of_mem_zeros)

/-- With a sign before it, a numeral is a signed one. -/
lemma isSigned_signed {negative : Bool} {s : List Char} (h : IsNumeral s) :
    IsSigned (signed negative s).toList := by
  cases negative with
  | false =>
    rw [signed, String.toList_ofList]
    exact .unsigned h
  | true =>
    rw [signed, String.toList_ofList]
    exact .minus h

/-- A finite float is written as a numeral. -/
lemma isSigned_plain {x : Double} (h : x.isFinite = true) : IsSigned x.plain.toList := by
  match x with
  | .nan | .infinite _ => cases h
  | .finite negative significand exponent _ =>
    rw [plain]
    split_ifs with hzero
    · exact isSigned_signed (.whole isRun_zero)
    · exact isSigned_signed (isNumeral_positional (isRun_digits_shortest hzero))

/-- A float that is not finite is written as a name. -/
lemma plain_of_not_finite {x : Double} (h : x.isFinite = false) :
    x.plain = "NaN" ∨ x.plain = "inf" ∨ x.plain = "-inf" := by
  match x with
  | .nan => exact .inl rfl
  | .infinite false => exact .inr (.inl rfl)
  | .infinite true => exact .inr (.inr rfl)
  | .finite .. => cases h

end Double

end SqlCompose
