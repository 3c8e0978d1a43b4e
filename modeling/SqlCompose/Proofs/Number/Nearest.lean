import Mathlib
import SqlCompose.Proofs.Schema.Integer

/-!
# The double nearest to an integer

Between `2 ^ 63` and `2 ^ 64` the doubles stand 2048 apart. An integer there is rounded to the
nearest multiple of 2048, so a double denotes it exactly if it is such a multiple.
-/

namespace SqlCompose.Double

/-- Rounding does not depend on a power of two that both numbers share. -/
lemma roundHalfEven_mul_two_pow (num den e : ℕ) :
    roundHalfEven (num * 2 ^ e) (den * 2 ^ e) = roundHalfEven num den := by
  have hpos : 0 < 2 ^ e := Nat.two_pow_pos e
  unfold roundHalfEven
  dsimp only
  rw [Nat.mul_div_mul_right _ _ hpos, Nat.mul_mod_mul_right]
  simp only [← Nat.mul_assoc, Nat.mul_lt_mul_right hpos, Nat.mul_right_cancel_iff hpos]

lemma bitLength_eq {n k : ℕ} (hlow : 2 ^ k ≤ n) (hhigh : n < 2 ^ (k + 1)) :
    bitLength n = k + 1 := by
  have hn : n ≠ 0 := ((Nat.two_pow_pos k).trans_le hlow).ne'
  rw [bitLength, if_neg hn, (Nat.log2_eq_iff hn).mpr ⟨hlow, hhigh⟩]

lemma bitLength_mul_two_pow {n k : ℕ} (e : ℕ) (hlow : 2 ^ k ≤ n) (hhigh : n < 2 ^ (k + 1)) :
    bitLength (n * 2 ^ e) = k + e + 1 := by
  apply bitLength_eq
  · rw [pow_add]
    exact Nat.mul_le_mul_right _ hlow
  · rw [Nat.add_right_comm, pow_add]
    exact Nat.mul_lt_mul_of_pos_right hhigh (Nat.two_pow_pos e)

/-- The number that parts denote whose exponent stands for whole numbers. -/
lemma rational?_ofParts {m k : ℕ} (h : IsCanonical m (1074 + k)) :
    (ofParts false m (1074 + k)).rational? = some ((m * 2 ^ k : ℕ) : ℚ) := by
  have hpow : (2 : ℚ) ^ 1074 ≠ 0 := by positivity
  rw [ofParts, dif_pos h, rational?, if_neg Bool.false_ne_true, one_mul, pow_add, mul_left_comm,
    mul_div_cancel_left₀ _ hpow, Nat.cast_mul, Nat.cast_pow, Nat.cast_ofNat]

/-- A double of a positive integer of so many binary digits has its last ones cut off. -/
lemma ofRatio_eq {n k : ℕ} (hlow : 2 ^ (52 + k) ≤ n) (hhigh : n < 2 ^ (53 + k)) :
    ofRatio false n 1 =
      if roundHalfEven n (2 ^ k) = 2 ^ 53 then ofParts false (2 ^ 52) (1074 + (k + 1))
      else ofParts false (roundHalfEven n (2 ^ k)) (1074 + k) := by
  unfold ofRatio
  -- the scale is kept as a name, so that nothing computes it
  generalize 1074 = e
  have hlength : bitLength (n * 2 ^ e / 1) - 53 = e + k := by
    rw [Nat.div_one, bitLength_mul_two_pow _ hlow (by rwa [Nat.add_right_comm])]
    omega
  have hround : roundHalfEven (n * 2 ^ e) (1 * 2 ^ (e + k)) = roundHalfEven n (2 ^ k) := by
    rw [one_mul, Nat.add_comm, pow_add]
    exact roundHalfEven_mul_two_pow _ _ _
  simp only [Nat.pow_eq]
  rw [hlength, hround, Nat.add_assoc]

/-- Of an integer between `2 ^ 63` and `2 ^ 64` all digits of a significand are kept. -/
lemma roundHalfEven_mem_range {n : ℕ} (hlow : 2 ^ 63 ≤ n) (hhigh : n < 2 ^ 64) :
    2 ^ 52 ≤ roundHalfEven n 2048 ∧ roundHalfEven n 2048 ≤ 2 ^ 53 := by
  unfold roundHalfEven
  dsimp only
  split_ifs <;> omega

/-- What an integer between `2 ^ 63` and `2 ^ 64` is rounded to. -/
lemma rational?_ofInt {n : ℕ} (hlow : 2 ^ 63 ≤ n) (hhigh : n < 2 ^ 64) :
    (ofInt n).rational? = some ((roundHalfEven n 2048 * 2048 : ℕ) : ℚ) := by
  have hround := roundHalfEven_mem_range hlow hhigh
  have hdouble : ofInt n = ofRatio false n 1 := rfl
  have hfine : roundHalfEven n (2 ^ 11) = roundHalfEven n 2048 := rfl
  rw [hdouble, ofRatio_eq (k := 11) hlow hhigh, hfine]
  split_ifs with htop
  · rw [rational?_ofParts (k := 12) (by decide), htop]
    rfl
  · rw [rational?_ofParts (k := 11) ⟨lt_of_le_of_ne hround.2 htop, .inl hround.1, by decide⟩]
    rfl

/-- An integer between `2 ^ 63` and `2 ^ 64` is denoted by its double exactly if it is a multiple of
2048. -/
lemma rational?_ofInt_eq_iff {i : ℤ} (hlow : 2 ^ 63 ≤ i) (hhigh : i < 2 ^ 64) :
    (ofInt i).rational? = some (i : ℚ) ↔ 2048 ∣ i := by
  obtain ⟨n, rfl⟩ := Int.eq_ofNat_of_zero_le (by omega : 0 ≤ i)
  have hexact : roundHalfEven n 2048 * 2048 = n ↔ 2048 ∣ n := by
    constructor
    · exact fun h => ⟨_, by rw [← h, Nat.mul_comm]⟩
    · rintro ⟨m, rfl⟩
      unfold roundHalfEven
      dsimp only
      rw [if_pos] <;> omega
  rw [rational?_ofInt (by omega) (by omega), Option.some.injEq, Int.cast_natCast, Nat.cast_inj,
    hexact]
  omega

end SqlCompose.Double
