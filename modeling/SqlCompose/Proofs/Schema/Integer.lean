import Mathlib
import SqlCompose.Schema.Column

/-!
# Casts to integers

The integer that a value denotes, said without any cast: a float denotes it by its sign, significand
and exponent, a text by the places of its digits. A column of an integer type turns a value into the
integer that it denotes and leaves a value that denotes none as it is. The exception are floats that
are whole numbers beyond 64 bits, which become the largest or the least integer.
-/

namespace SqlCompose

/-! ### Numerals -/

namespace Digits

variable {s : List Char} {n : ℕ} {i : ℤ}

/-- One or more digits. -/
structure IsRun (s : List Char) : Prop where
  ne_nil : s ≠ []
  all : ∀ c ∈ s, c.isDigit = true

/-- The number that digits spell: the last one counts ones, the one before it tens, and so on. -/
def spelled (s : List Char) : ℕ := Nat.ofDigits 10 (s.reverse.map digitValue)

/-- A text is the numeral of an integer: digits with or without a sign. -/
inductive Spells : List Char → ℤ → Prop
  | unsigned {s : List Char} (h : IsRun s) : Spells s (spelled s)
  | plus {s : List Char} (h : IsRun s) : Spells ('+' :: s) (spelled s)
  | minus {s : List Char} (h : IsRun s) : Spells ('-' :: s) (-spelled s)

lemma value_eq_spelled (s : List Char) : value s = spelled s := by
  induction s using List.reverseRecOn with
  | nil => rfl
  | append_singleton s c ih =>
    have hplaces : spelled (s ++ [c]) = digitValue c + 10 * spelled s := by
      simp [spelled, Nat.ofDigits_cons]
    rw [hplaces, ← ih, value, List.foldl_append, Nat.add_comm]
    rfl

/-- A run of digits is read as the number that it spells, and nothing else is read. -/
lemma natural?_eq_some_iff : natural? s = some n ↔ IsRun s ∧ n = spelled s := by
  rw [natural?, value_eq_spelled]
  constructor
  · intro h
    split at h
    · rename_i hrun
      rw [Bool.and_eq_true, List.all_eq_true] at hrun
      exact ⟨⟨by simpa using hrun.1, hrun.2⟩, (Option.some.inj h).symm⟩
    · cases h
  · rintro ⟨hrun, rfl⟩
    rw [if_pos]
    rw [Bool.and_eq_true, List.all_eq_true]
    exact ⟨by simpa using hrun.ne_nil, hrun.all⟩

lemma integer?_minus (s : List Char) :
    integer? ('-' :: s) = (natural? s).map fun n : ℕ => -(n : ℤ) := by
  cases h : natural? s <;> simp [integer?, h]

lemma integer?_unsigned (hs : ∀ c ∈ s.head?, c ∉ ['-', '+']) :
    integer? s = (natural? s).map Int.ofNat := by
  unfold integer?
  split
  · exact absurd List.mem_cons_self (hs '-' rfl)
  · exact absurd (List.mem_cons_of_mem _ List.mem_cons_self) (hs '+' rfl)
  · rfl

lemma IsRun.head_not_mem (h : IsRun s) : ∀ c ∈ s.head?, c ∉ ['-', '+'] := by
  intro c hc hsign
  have hdigit := h.all c (List.mem_of_mem_head? hc)
  rcases List.mem_pair.mp hsign with rfl | rfl
  · exact absurd hdigit (by decide)
  · exact absurd hdigit (by decide)

/-- The reader of integers takes numerals and nothing else. -/
lemma integer?_eq_some_iff : integer? s = some i ↔ Spells s i := by
  constructor
  · intro h
    by_cases hsign : ∀ c ∈ s.head?, c ∉ ['-', '+']
    · rw [integer?_unsigned hsign, Option.map_eq_some_iff] at h
      obtain ⟨n, hn, rfl⟩ := h
      obtain ⟨hrun, rfl⟩ := natural?_eq_some_iff.mp hn
      exact .unsigned hrun
    · push Not at hsign
      obtain ⟨c, hc, hsign⟩ := hsign
      obtain ⟨rest, rfl⟩ := List.head?_eq_some_iff.mp hc
      rcases List.mem_pair.mp hsign with rfl | rfl
      · rw [integer?_minus, Option.map_eq_some_iff] at h
        obtain ⟨n, hn, rfl⟩ := h
        obtain ⟨hrun, rfl⟩ := natural?_eq_some_iff.mp hn
        exact .minus hrun
      · obtain ⟨n, hn, rfl⟩ := Option.map_eq_some_iff.mp h
        obtain ⟨hrun, rfl⟩ := natural?_eq_some_iff.mp hn
        exact .plus hrun
  · have hread {s : List Char} (h : IsRun s) : natural? s = some (spelled s) :=
      natural?_eq_some_iff.mpr ⟨h, rfl⟩
    rintro (h | h | h)
    · rw [integer?_unsigned h.head_not_mem, hread h]
      rfl
    · rw [integer?, hread h]
      rfl
    · rw [integer?_minus, hread h]
      rfl

end Digits

/-! ### Floats -/

namespace Double

variable {x : Double} {i : ℤ}

/-- The rational number that a finite float denotes. -/
def rational? : Double → Option ℚ
  | .finite negative significand exponent _ =>
    some ((if negative then -1 else 1) * (significand * 2 ^ exponent / 2 ^ 1074))
  | _ => none

/-- A quotient is an integer where the division leaves no rest. -/
lemma natCast_div_eq_intCast_iff {a b : ℕ} (hb : 0 < b) :
    (a / b : ℚ) = i ↔ a % b = 0 ∧ ((a / b : ℕ) : ℤ) = i := by
  have hb' : (b : ℚ) ≠ 0 := by exact_mod_cast hb.ne'
  rw [div_eq_iff hb']
  constructor
  · intro h
    have hprod : (a : ℤ) = i * b := by exact_mod_cast h
    have hdvd : b ∣ a := Int.natCast_dvd_natCast.mp ⟨i, by rw [hprod, mul_comm]⟩
    refine ⟨Nat.mod_eq_zero_of_dvd hdvd, ?_⟩
    rw [Int.natCast_div, hprod, Int.mul_ediv_cancel _ (by exact_mod_cast hb.ne')]
  · rintro ⟨hrest, rfl⟩
    have hprod : a / b * b = a := Nat.div_mul_cancel (Nat.dvd_of_mod_eq_zero hrest)
    exact_mod_cast hprod.symm

/-- A float is an integer exactly if the number that it denotes is one. -/
lemma toInt?_eq_some_iff : x.toInt? = some i ↔ x.rational? = some (i : ℚ) := by
  match x with
  | .nan | .infinite _ => simp [toInt?, rational?]
  | .finite negative significand exponent _ =>
    -- the denominator is kept as a name, so that nothing computes it
    obtain ⟨b, hb⟩ : ∃ b : ℕ, b = 2 ^ 1074 := ⟨_, rfl⟩
    have hpos : 0 < b := by rw [hb]; positivity
    have hcast : (2 : ℚ) ^ 1074 = b := by rw [hb, Nat.cast_pow, Nat.cast_ofNat]
    obtain ⟨a, ha⟩ : ∃ a : ℕ, a = significand * 2 ^ exponent := ⟨_, rfl⟩
    have hcast' : (significand : ℚ) * 2 ^ exponent = a := by
      rw [ha, Nat.cast_mul, Nat.cast_pow, Nat.cast_ofNat]
    have hplus : (a / b : ℚ) = i ↔ a % b = 0 ∧ ((a / b : ℕ) : ℤ) = i :=
      natCast_div_eq_intCast_iff hpos
    have hminus : -(a / b : ℚ) = i ↔ a % b = 0 ∧ -((a / b : ℕ) : ℤ) = i := by
      rw [neg_eq_iff_eq_neg, ← Int.cast_neg, natCast_div_eq_intCast_iff hpos, neg_eq_iff_eq_neg]
    simp only [toInt?, rational?, Nat.pow_eq, ← hb, ← ha, hcast, hcast', Option.some.injEq]
    cases negative with
    | false => simp [hplus]
    | true => simp [hminus]

end Double

/-! ### Integers of 64 bits -/

section Int64

variable {i : ℤ} {n : Int64}

/-- An integer is taken exactly if 64 bits hold it. -/
lemma int64?_eq_some_iff : int64? i = some n ↔ n.toInt = i := by
  unfold int64?
  constructor
  · intro h
    split at h
    · rename_i hrange
      obtain rfl := Option.some.inj h
      rw [Int64.toInt_minValue, Int64.toInt_maxValue] at hrange
      exact Int64.toInt_ofInt_of_le (by omega) (by omega)
    · cases h
  · rintro rfl
    rw [if_pos, Int64.ofInt_toInt]
    have hlow := n.le_toInt
    have hhigh := n.toInt_lt
    rw [Int64.toInt_minValue, Int64.toInt_maxValue]
    omega

lemma clampInt64_toInt (n : Int64) : clampInt64 n.toInt = n := by
  have hlow := n.le_toInt
  have hhigh := n.toInt_lt
  rw [clampInt64, Int64.toInt_minValue, Int64.toInt_maxValue, min_eq_left (by omega),
    max_eq_right (by omega), Int64.ofInt_toInt]

lemma clampInt64_of_lt (h : Int64.maxValue.toInt < i) : clampInt64 i = Int64.maxValue := by
  rw [clampInt64, min_eq_right h.le, max_eq_right (by decide), Int64.ofInt_toInt]

lemma clampInt64_of_gt (h : i < Int64.minValue.toInt) : clampInt64 i = Int64.minValue := by
  rw [clampInt64, min_eq_left (h.le.trans (by decide)), max_eq_left h.le, Int64.ofInt_toInt]

end Int64

/-! ### Values -/

namespace Value

variable {v : Value} {i : ℤ} {n : Int64}

/-- The integer that a value denotes, if it denotes one; a text may have blanks around it. -/
inductive Denotes : Value → ℤ → Prop
  | bool (b : Bool) : Denotes (.bool b) (if b then 1 else 0)
  | int (n : Int64) : Denotes (.int n) n.toInt
  | float {x : Double} {i : ℤ} (h : x.rational? = some (i : ℚ)) : Denotes (.float x) i
  | text {s : String} {i : ℤ} (h : Digits.Spells (Chars.trim s.toList) i) : Denotes (.text s) i

/-- A float that is a whole number, but none of 64 bits. -/
def IsBeyondInt64 (v : Value) : Prop :=
  ∃ (x : Double) (i : ℤ), v = .float x ∧ x.rational? = some (i : ℚ) ∧ ∀ n : Int64, n.toInt ≠ i

/-- A value that denotes an integer of 64 bits is that integer. -/
lemma Denotes.asInt? (h : v.Denotes n.toInt) : v.asInt? = some n := by
  generalize hi : n.toInt = i at h
  cases h with
  | bool b =>
    have hn : n = if b then 1 else 0 := by
      rw [← Int64.toInt_inj, hi]
      cases b <;> rfl
    rw [hn, Value.asInt?]
  | int m =>
    obtain rfl := Int64.toInt_inj.mp hi
    rfl
  | float hx =>
    rw [Value.asInt?, Double.toInt?_eq_some_iff.mpr hx, Option.map_some, ← hi, clampInt64_toInt]
  | text hs =>
    rw [Value.asInt?, Digits.integer?_eq_some_iff.mpr hs]
    exact int64?_eq_some_iff.mpr hi

/-- What is taken for an integer denotes it, or is a float beyond 64 bits. -/
lemma denotes_of_asInt? (h : v.asInt? = some n) : v.Denotes n.toInt ∨ v.IsBeyondInt64 := by
  cases v with
  | null | dateTime | date => cases h
  | bool b =>
    obtain rfl := Option.some.inj h
    have hb : (if b then 1 else 0 : Int64).toInt = if b then 1 else 0 := by cases b <;> rfl
    rw [hb]
    exact .inl (.bool b)
  | int m =>
    obtain rfl := Option.some.inj h
    exact .inl (.int m)
  | float x =>
    obtain ⟨i, hx, hn⟩ := Option.map_eq_some_iff.mp h
    rw [Double.toInt?_eq_some_iff] at hx
    by_cases hrange : ∃ m : Int64, m.toInt = i
    · obtain ⟨m, rfl⟩ := hrange
      rw [clampInt64_toInt] at hn
      exact .inl (.float (hn ▸ hx))
    · exact .inr ⟨x, i, rfl, hx, not_exists.mp hrange⟩
  | text s =>
    obtain ⟨i, hs, hn⟩ := Option.bind_eq_some_iff.mp h
    obtain rfl := int64?_eq_some_iff.mp hn
    exact .inl (.text (Digits.integer?_eq_some_iff.mp hs))

end Value

/-! ### Casts -/

namespace ColumnSchema

variable {c : ColumnSchema} {v : Value}

/-- A column keeps the number of a value: an integer that it makes of the value is the one that the
value denotes, and a value that denotes none of 64 bits stays as it is, but for the empty text,
which is null where null is admitted. -/
structure KeepsNumber (c : ColumnSchema) (v : Value) : Prop where
  denoted : ∀ n, c.typecast v = .int n → v.Denotes n.toInt
  unchanged : (∀ n : Int64, ¬v.Denotes n.toInt) →
    c.typecast v = if c.allowNull = true ∧ v = .text "" then .null else v

/-- A column of an integer type casts what is taken for an integer. -/
lemma typecast_integer (hc : c.kind.isInteger = true) (v : Value) :
    c.typecast v =
      if c.allowNull = true ∧ v = .text "" then .null else (v.asInt?.map .int).getD v := by
  have hcast : castTo c.kind v = (v.asInt?.map .int).getD v := by
    generalize c.kind = kind at hc
    cases kind <;> first | rfl | cases hc
  have htextual : c.kind.isTextual = false := by
    generalize c.kind = kind at hc
    cases kind <;> first | rfl | cases hc
  cases v with
  | null => simp [typecast, Value.isNull, Value.asInt?]
  | _ => simp [typecast, Value.isNull, hcast, htextual]

/-- What is taken for an integer is no empty text. -/
lemma typecast_of_asInt? (hc : c.kind.isInteger = true) {n : Int64} (h : v.asInt? = some n) :
    c.typecast v = .int n := by
  rw [typecast_integer hc, if_neg, h]
  · rfl
  · rintro ⟨-, rfl⟩
    simp [Value.asInt?, Chars.trim, Chars.trimStart, Chars.trimEnd, Digits.integer?,
      Digits.natural?] at h

/-- A float beyond 64 bits becomes the integer nearest to it. -/
lemma typecast_of_isBeyondInt64 (hc : c.kind.isInteger = true) {x : Double} {i : ℤ}
    (hx : x.rational? = some (i : ℚ)) : c.typecast (.float x) = .int (clampInt64 i) := by
  apply typecast_of_asInt? hc
  rw [Value.asInt?, Double.toInt?_eq_some_iff.mpr hx, Option.map_some]

/-- An integer column changes the number of a float beyond 64 bits. -/
lemma not_keepsNumber_of_isBeyondInt64 (hc : c.kind.isInteger = true) (h : v.IsBeyondInt64) :
    ¬c.KeepsNumber v := by
  obtain ⟨x, i, rfl, hx, hrange⟩ := h
  intro hkeeps
  cases hkeeps.denoted _ (typecast_of_isBeyondInt64 hc hx) with
  | float hx' =>
    rw [hx, Option.some.injEq, Int.cast_inj] at hx'
    exact hrange _ hx'.symm

/-- A cast result is an integer only if the value is taken for it. -/
lemma asInt?_of_typecast (hc : c.kind.isInteger = true) {n : Int64} (h : c.typecast v = .int n) :
    v.asInt? = some n := by
  cases hv : v.asInt? with
  | some m =>
    rw [typecast_of_asInt? hc hv, Value.int.injEq] at h
    rw [h]
  | none =>
    rw [typecast_integer hc, hv] at h
    split at h
    · cases h
    · obtain rfl : v = .int n := h
      exact hv.symm

/-- An integer column keeps the number of every other value. -/
lemma keepsNumber_of_not_isBeyondInt64 (hc : c.kind.isInteger = true) (hv : ¬v.IsBeyondInt64) :
    c.KeepsNumber v := by
  have hread {n : Int64} (h : v.asInt? = some n) : v.Denotes n.toInt :=
    (Value.denotes_of_asInt? h).resolve_right hv
  constructor
  · exact fun n hn => hread (asInt?_of_typecast hc hn)
  · intro hnone
    have h : v.asInt? = none := Option.eq_none_iff_forall_ne_some.mpr fun n h => hnone n (hread h)
    rw [typecast_integer hc, h]
    rfl

/-- A column of an integer type makes each value that denotes an integer of 64 bits that integer. It
keeps the number of every value but of floats that are whole numbers beyond 64 bits; these become
the largest or the least integer. -/
theorem typecast_keepsNumber_iff (hc : c.kind.isInteger = true) (v : Value) :
    (∀ n : Int64, v.Denotes n.toInt → c.typecast v = .int n) ∧
    (c.KeepsNumber v ↔ ¬v.IsBeyondInt64) ∧
    ∀ (x : Double) (i : ℤ), v = .float x → x.rational? = some (i : ℚ) →
      (Int64.maxValue.toInt < i → c.typecast v = .int Int64.maxValue) ∧
      (i < Int64.minValue.toInt → c.typecast v = .int Int64.minValue) := by
  refine ⟨fun n h => typecast_of_asInt? hc h.asInt?, ⟨?_, ?_⟩, ?_⟩
  · exact fun hkeeps hv => not_keepsNumber_of_isBeyondInt64 hc hv hkeeps
  · exact keepsNumber_of_not_isBeyondInt64 hc
  · rintro x i rfl hx
    refine ⟨fun h => ?_, fun h => ?_⟩
    · rw [typecast_of_isBeyondInt64 hc hx, clampInt64_of_lt h]
    · rw [typecast_of_isBeyondInt64 hc hx, clampInt64_of_gt h]

/-- The float of ten quintillions. -/
def tenQuintillions : Double := .finite false 4882812500000000 1085 (by decide)

lemma rational?_tenQuintillions :
    tenQuintillions.rational? = some ((10000000000000000000 : ℤ) : ℚ) := by
  have hpower : (2 : ℚ) ^ 1085 = 2 ^ 11 * 2 ^ 1074 := pow_add 2 11 1074
  have hne : (2 : ℚ) ^ 1074 ≠ 0 := pow_ne_zero _ two_ne_zero
  rw [tenQuintillions, Double.rational?, hpower, ← mul_assoc, mul_div_cancel_right₀ _ hne]
  norm_num

/-- Ten quintillions become the largest integer. -/
theorem typecast_keepsNumber_iff_tenQuintillions :
    let c := new "n" .bigInt "bigint"
    c.kind.isInteger = true ∧ c.typecast (.float tenQuintillions) = .int Int64.maxValue ∧
      ¬c.KeepsNumber (.float tenQuintillions) := by
  intro c
  have hc : c.kind.isInteger = true := rfl
  obtain ⟨-, hiff, hbeyond⟩ := typecast_keepsNumber_iff hc (.float tenQuintillions)
  have hcast := (hbeyond _ _ rfl rational?_tenQuintillions).1 (by decide)
  refine ⟨hc, hcast, fun hkeeps => hiff.mp hkeeps ?_⟩
  refine ⟨_, _, rfl, rational?_tenQuintillions, fun n hn => ?_⟩
  have hhigh := n.toInt_lt
  omega

end ColumnSchema

end SqlCompose
