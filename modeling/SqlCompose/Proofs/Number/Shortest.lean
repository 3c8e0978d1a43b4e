import Mathlib
import SqlCompose.Number.DoubleText
import SqlCompose.Proofs.Number.Nearest

/-!
# The digits of shortest decimals

A shortest decimal has at most seventeen digits. The numeral of an integer of more digits is filled
with zeros, so a double that is written as such an integer is written as a multiple of a power of
ten.
-/

namespace SqlCompose

/-! ### Digits of natural numbers -/

/-- A numeral has at most so many digits exactly below that power of ten. -/
lemma length_toString_le_iff {n k : ℕ} (hk : 0 < k) : (toString n).length ≤ k ↔ n < 10 ^ k := by
  rw [Nat.toString_eq_ofList_toDigits, String.length_ofList]
  exact Nat.length_toDigits_le_iff (by decide) hk

/-- Without the zeros at its end, a power of ten has one digit only. -/
lemma length_dropZeros_le {n k : ℕ} (hk : 0 < k) (h : n ≤ 10 ^ k) :
    ((toString n).toList.reverse.dropWhile (· == '0')).reverse.length ≤ k := by
  rw [List.length_reverse]
  rcases h.lt_or_eq with h | rfl
  · calc _ ≤ (toString n).toList.reverse.length := (List.dropWhile_sublist _).length_le
      _ = (toString n).length := by rw [List.length_reverse, String.length_toList]
      _ ≤ k := (length_toString_le_iff hk).mpr h
  · have hten : 10 ≤ 10 ^ k := Nat.le_self_pow hk.ne' 10
    have hzero : 10 ^ k % 10 = 0 := Nat.mod_eq_zero_of_dvd (dvd_pow_self 10 hk.ne')
    have hless : 10 ^ k / 10 < 10 ^ k := Nat.div_lt_self (by omega) (by decide)
    rw [Nat.toString_eq_ofList_toDigits, String.toList_ofList,
      Nat.toDigits_of_base_le (by decide) hten, hzero, List.reverse_append]
    calc _ = ((Nat.toDigits 10 (10 ^ k / 10)).reverse.dropWhile (· == '0')).length := rfl
      _ ≤ (Nat.toDigits 10 (10 ^ k / 10)).reverse.length := (List.dropWhile_sublist _).length_le
      _ = (Nat.toDigits 10 (10 ^ k / 10)).length := List.length_reverse
      _ ≤ k := (Nat.length_toDigits_le_iff (by decide) hk).mpr hless

/-- A number that is written with two zeros at the end is a multiple of a hundred. -/
lemma hundred_dvd_of_toDigits {n : ℕ} {s : List Char} (hs : s ≠ [])
    (h : Nat.toDigits 10 n = s ++ ['0', '0']) : 100 ∣ n := by
  have hlast {n : ℕ} {s : List Char} (hs : s ≠ []) (h : Nat.toDigits 10 n = s ++ ['0']) :
      n % 10 = 0 ∧ Nat.toDigits 10 (n / 10) = s := by
    rw [Nat.toDigits_eq_if (by decide)] at h
    split_ifs at h with hsmall
    · cases s with
      | nil => exact absurd rfl hs
      | cons c s => simp at h
    · obtain ⟨hrest, hdigit⟩ := List.append_inj' h rfl
      exact ⟨by simpa using hdigit, hrest⟩
  obtain ⟨hones, hrest⟩ := hlast (s := s ++ ['0']) (by simp) (by simpa using h)
  obtain ⟨htens, -⟩ := hlast hs hrest
  omega

namespace Double

/-! ### Shortest decimals -/

/-- Where a number has more digits before its point than its decimal is to have, the decimal has no
more digits than that. -/
lemma length_digits_of_decimalOfLength {tie : Tie} {closed : Bool} {num low high den n : ℕ}
    {d : Decimal} (hn : 0 < n) (hlarge : 10 ^ n ≤ num / den)
    (h : decimalOfLength tie closed num low high den n = some d) : d.digits.length ≤ n := by
  have hden : den ≤ num := by
    by_contra hless
    rw [Nat.div_eq_of_lt (by omega)] at hlarge
    exact absurd hlarge (Nat.pow_pos (by decide)).not_ge
  have hlength : n < (toString (num / den)).length := by
    by_contra hshort
    exact absurd hlarge ((length_toString_le_iff hn).mp (by omega)).not_ge
  obtain ⟨grid, hgrid⟩ := Nat.exists_eq_add_of_lt hlength
  -- the decimal is a whole number of tens, hundreds and so on
  have hexponent : decimalExponent num den - n + 1 = ((grid + 1 : ℕ) : ℤ) := by
    rw [decimalExponent, if_pos hden, hgrid]
    omega
  have hbelow : num * 10 ^ 0 / (den * 10 ^ (grid + 1)) < 10 ^ n := by
    have hhigh : num / den < 10 ^ (n + (grid + 1)) := by
      rw [← length_toString_le_iff (by omega), hgrid, Nat.add_assoc]
    rw [pow_zero, mul_one, ← Nat.div_div_eq_div_mul, Nat.div_lt_iff_lt_mul (by positivity),
      ← pow_add]
    exact hhigh
  unfold decimalOfLength at h
  rw [hexponent] at h
  simp only [Int.toNat_natCast, Int.toNat_neg_natCast, Nat.pow_eq] at h
  obtain ⟨m, hm, rfl⟩ := Option.map_eq_some_iff.mp h
  refine length_dropZeros_le hn ?_
  split_ifs at hm <;> cases hm <;> omega

/-- A large double has no more than seventeen digits before the zeros at its end. -/
lemma length_digits_shortest {tie : Tie} {significand exponent : ℕ}
    (hlarge : 10 ^ 17 ≤ significand * Nat.pow 2 exponent / Nat.pow 2 1074) :
    (shortest tie significand exponent).digits.length ≤ 17 := by
  have hscale (a b : ℕ) (h : b = 2 + a) : significand * Nat.pow 2 exponent / Nat.pow 2 a =
      4 * significand * Nat.pow 2 exponent / Nat.pow 2 b := by
    have hfour : Nat.pow 2 (2 + a) = 4 * Nat.pow 2 a := pow_add 2 2 a
    rw [h, hfour, Nat.mul_assoc, Nat.mul_div_mul_left _ _ (by decide)]
  unfold shortest
  dsimp only
  -- the exponents are kept as names, so that nothing computes the powers
  generalize ha : 1074 = a at hlarge
  generalize hb : 1076 = b
  rw [hscale a b (by omega)] at hlarge
  generalize hfound : List.findSome? _ (List.range 17) = found
  cases found with
  | none => decide
  | some d =>
    obtain ⟨n, hmem, hn⟩ := List.exists_of_findSome?_eq_some hfound
    have hrange : n + 1 ≤ 17 := List.mem_range.mp hmem
    exact (length_digits_of_decimalOfLength n.succ_pos
      ((Nat.pow_le_pow_right (by decide) hrange).trans hlarge) hn).trans hrange

/-- A decimal that is written without a point is its digits and zeros. -/
lemma positional_eq_of_no_point {d : Decimal} (h : '.' ∉ positional d) :
    positional d = d.digits ++ List.replicate ((positional d).length - d.digits.length) '0' := by
  unfold positional at h ⊢
  dsimp only at h ⊢
  split_ifs at h ⊢ with hpoint hwhole
  · simp at h
  · simp at h
  · simp

/-- A double that denotes a positive integer is written as its shortest decimal. -/
lemma plain_eq_positional {x : Double} {k : ℕ} (hk : 0 < k) (h : x.rational? = some (k : ℚ)) :
    ∃ m e, x.plain.toList = positional (shortest .up m e) ∧
      m * Nat.pow 2 e / Nat.pow 2 1074 = k := by
  have hint : x.toInt? = some (k : ℤ) := toInt?_eq_some_iff.mpr (by rw [h, Int.cast_natCast])
  match x, hint with
  | .finite negative m e _, hint =>
    rw [toInt?, Option.ite_none_right_eq_some, Option.some.injEq] at hint
    obtain ⟨-, hint⟩ := hint
    refine ⟨m, e, ?_⟩
    generalize Nat.pow 2 1074 = b at hint ⊢
    cases negative with
    | true =>
      rw [if_pos rfl] at hint
      have hle : -((m * Nat.pow 2 e / b : ℕ) : ℤ) ≤ 0 := Int.neg_nonpos_of_nonneg (by positivity)
      omega
    | false =>
      rw [if_neg Bool.false_ne_true, Nat.cast_inj] at hint
      have hm : m ≠ 0 := by
        rintro rfl
        rw [Nat.zero_mul, Nat.zero_div] at hint
        exact hk.ne hint
      rw [plain, if_neg hm, signed, String.toList_ofList, if_neg Bool.false_ne_true]
      exact ⟨rfl, hint⟩

/-- Of the digits of a large double that is written as an integer, the last two are zeros. -/
lemma hundred_dvd_of_plain {x : Double} {k n : ℕ} (hlarge : 10 ^ 17 ≤ k) (hn : 10 ^ 18 ≤ n)
    (hx : x.rational? = some (k : ℚ)) (h : x.plain = toString n) : 100 ∣ n := by
  obtain ⟨m, e, hplain, hk⟩ := plain_eq_positional (by omega) hx
  let d := shortest .up m e
  have hdigits : Nat.toDigits 10 n = positional d := by
    rw [← hplain, h, Nat.toString_eq_ofList_toDigits, String.toList_ofList]
  have hshort : d.digits.length ≤ 17 := length_digits_shortest (hlarge.trans_eq hk.symm)
  have hlong : 18 < (Nat.toDigits 10 n).length := by
    by_contra hless
    rw [not_lt, Nat.length_toDigits_le_iff (by decide) (by decide)] at hless
    exact absurd hn hless.not_ge
  have hpoint : '.' ∉ positional d := by
    rw [← hdigits]
    intro hpoint
    have hdigit : Char.isDigit '.' = true :=
      Nat.isDigit_of_mem_toDigits (by decide) (by decide) hpoint
    exact absurd hdigit (by decide)
  rw [hdigits] at hlong
  obtain ⟨zeros, hzeros⟩ : ∃ zeros, (positional d).length - d.digits.length = zeros + 2 :=
    ⟨(positional d).length - d.digits.length - 2, by omega⟩
  have hends : positional d = d.digits ++ List.replicate zeros '0' ++ ['0', '0'] := by
    rw [positional_eq_of_no_point hpoint, hzeros, List.replicate_add, List.append_assoc]
    rfl
  refine hundred_dvd_of_toDigits (fun hnil => ?_) (hdigits.trans hends)
  rw [hends, hnil] at hlong
  exact absurd hlong (by decide)

end Double

end SqlCompose
