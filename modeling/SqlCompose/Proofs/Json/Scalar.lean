import Mathlib
import SqlCompose.Json.Printer
import SqlCompose.Json.Reader
import SqlCompose.Proofs.Number.Numeral

/-!
# Scalars of documents

The compact text of a scalar is read back as that scalar: the escapes between the quotes of a text
are taken back one by one, and an integer of 64 bits, signed or unsigned, is read digit by digit. A
double is not among these scalars: one that is a whole number is read as an integer.
-/

namespace SqlCompose.Json

open Digits

variable {s rest : List Char} {c : Char} {i : ℤ} {n : ℕ}

/-! ### Texts -/

namespace Token

/-- A hexadecimal digit is read as its number. -/
lemma hexValue?_hexDigit (hn : n < 16) : hexValue? (hexDigit n) = some n := by
  have hall : ∀ k : Fin 16, hexValue? (hexDigit k) = some k.val := by decide
  exact hall ⟨n, hn⟩

/-- The escape of a control character is its code point in four digits. -/
lemma unit?_hexDigit (hn : n < 32) :
    unit? '0' '0' (hexDigit (n / 16)) (hexDigit (n % 16)) = some n := by
  have hzero : hexValue? '0' = some 0 := by decide
  simp only [unit?, hzero, hexValue?_hexDigit (show n / 16 < 16 by omega),
    hexValue?_hexDigit (show n % 16 < 16 by omega), Option.bind_eq_bind, Option.bind_some,
    Option.some.injEq]
  omega

/-- A control character is read from its escape. -/
lemma text?_control (hc : c.toNat < 32) (rest : List Char) :
    text? ('\\' :: 'u' :: '0' :: '0' :: hexDigit (c.toNat / 16) :: hexDigit (c.toNat % 16) :: rest)
      = (text? rest).map fun (s, rest) => (c :: s, rest) := by
  have hhigh : isHighSurrogate c.toNat = false := by
    rw [isHighSurrogate, Bool.and_eq_false_iff, decide_eq_false_iff_not]
    omega
  have hlow : isLowSurrogate c.toNat = false := by
    rw [isLowSurrogate, Bool.and_eq_false_iff, decide_eq_false_iff_not]
    omega
  simp [text?, unit?_hexDigit hc, hhigh, hlow, Char.ofNat_toNat]

lemma text?_plain (hquote : c ≠ '"') (hbackslash : c ≠ '\\') (hc : 32 ≤ c.toNat)
    (rest : List Char) : text? (c :: rest) = (text? rest).map fun (s, rest) => (c :: s, rest) := by
  have hplain : ¬(c.toNat < 32 ∨ c = '\\') := by
    rw [not_or]
    exact ⟨by omega, hbackslash⟩
  rw [text?.eq_def]
  split <;> simp_all

/-- What stands for a character between quotes is read as that character. -/
lemma text?_escape (c : Char) (rest : List Char) :
    text? (escape c ++ rest) = (text? rest).map fun (s, rest) => (c :: s, rest) := by
  unfold escape
  split
  -- the escapes of one letter are read by evaluation
  all_goals try rfl
  split
  · exact text?_control ‹_› rest
  · exact text?_plain ‹_› ‹_› (by omega) rest

/-- Escaped characters are read back up to the closing quote. -/
lemma text?_flatMap_escape (s rest : List Char) :
    text? (s.flatMap escape ++ '"' :: rest) = some (s, rest) := by
  induction s with
  | nil => rfl
  | cons c s ih =>
    rw [List.flatMap_cons, List.append_assoc, text?_escape, ih]
    rfl

lemma read?_quote (s : String) : read? (quote s).toList = some (.string s, []) := by
  rw [quote, String.toList_ofList, read?, text?_flatMap_escape, Option.map_some]
  exact congrArg (fun s => some (string s, [])) String.ofList_toList

end Token

/-! ### Integers -/

namespace Numeral

/-- The numeral that an integer is written as. -/
def ofInt (i : ℤ) : Numeral where
  negative := decide (i < 0)
  whole := Nat.toDigits 10 i.natAbs
  part := []
  exponent := none

/-- No zero stands before another digit. -/
lemma head?_toDigits (hn : 0 < n) : '0' ∉ (Nat.toDigits 10 n).head? := by
  induction n using Nat.strongRecOn with
  | ind n ih =>
    rcases Nat.lt_or_ge n 10 with hless | hmore
    · rw [Nat.toDigits_of_lt_base hless]
      interval_cases n <;> decide
    · rw [Nat.toDigits_of_base_le (by decide) hmore,
        List.head?_append_of_ne_nil _ Nat.toDigits_ne_nil]
      exact ih (n / 10) (by omega) (by omega)

lemma digits?_of_isRun (h : IsRun s) : digits? s = some (s, []) := by
  have hall : s.takeWhile Char.isDigit = s := List.takeWhile_eq_self_iff.mpr h.all
  have hnone : s.dropWhile Char.isDigit = [] := List.dropWhile_eq_nil_iff.mpr h.all
  simp [digits?, List.span_eq_takeWhile_dropWhile, hall, hnone, h.ne_nil]

/-- A numeral without leading zeros is read whole. -/
lemma whole?_toDigits (n : ℕ) : whole? (Nat.toDigits 10 n) = some (Nat.toDigits 10 n, []) := by
  rcases n.eq_zero_or_pos with rfl | hn
  · rfl
  · have hhead := head?_toDigits hn
    unfold whole?
    split
    · rename_i hdigits
      exact absurd (by rw [hdigits]; rfl) hhead
    · exact digits?_of_isRun (isRun_toDigits n)

/-- The numeral of an integer is read back. -/
lemma read?_toString (i : ℤ) : read? (toString i).toList = some (ofInt i, []) := by
  cases i with
  | ofNat n =>
    have htext : (toString (Int.ofNat n)).toList = Nat.toDigits 10 n := by
      rw [← String.toList_ofList (l := Nat.toDigits 10 n), ← Nat.toString_eq_ofList_toDigits]
      rfl
    have hminus : ∀ rest, Nat.toDigits 10 n ≠ '-' :: rest := by
      intro rest heq
      have hdigit := (isRun_toDigits n).all '-' (by rw [heq]; exact List.mem_cons_self)
      exact absurd hdigit (by decide)
    rw [htext, read?, whole?_toDigits]
    · rfl
    · exact hminus
  | negSucc n =>
    have htext : (toString (Int.negSucc n)).toList = '-' :: Nat.toDigits 10 (n + 1) := by
      rw [← String.toList_ofList (l := Nat.toDigits 10 (n + 1)), ← Nat.toString_eq_ofList_toDigits]
      exact String.toList_append ..
    rw [htext, read?, whole?_toDigits]
    simp [part?, exponent?, ofInt]

/-- An integer of 64 bits is read as an integer. -/
lemma number?_ofInt (hlow : -2 ^ 63 ≤ i) (hhigh : i < 2 ^ 64) :
    (ofInt i).number? = some (.integer i) := by
  have hvalue := value_toDigits i.natAbs
  by_cases hnegative : i < 0
  · have hsigned : -(i.natAbs : ℤ) = i := by omega
    have hfits : (int64? i).isSome = true := by
      rw [int64?, if_pos ⟨hlow, le_trans hnegative.le (by decide)⟩]
      rfl
    simp [number?, ofInt, hnegative, hvalue, -Nat.cast_natAbs, hsigned, hfits, hnegative.ne]
  · have hsigned : (i.natAbs : ℤ) = i := by omega
    have hbound : i < coefficientBound := hhigh
    simp [number?, ofInt, hnegative, hvalue, -Nat.cast_natAbs, hsigned, hbound]

end Numeral

/-! ### Documents of one scalar -/

/-- Null, a boolean, an integer of 64 bits or a text. -/
inductive IsExact : Json → Prop
  | null : IsExact .null
  | bool (b : Bool) : IsExact (.bool b)
  | integer {i : ℤ} (hlow : -2 ^ 63 ≤ i) (hhigh : i < 2 ^ 64) : IsExact (.number (.integer i))
  | string (s : String) : IsExact (.string s)

/-- The token that a scalar is written as. -/
def token : Json → Token
  | .bool b => .bool b
  | .number n => .number n
  | .string s => .string s
  | _ => .null

variable {j : Json}

/-- What starts like a number is read as one. -/
lemma read?_numeral (hc : c.isDigit = true ∨ c ∈ ['.', '-']) (rest : List Char) :
    Token.read? (c :: rest) = (Numeral.read? (c :: rest)).bind fun (numeral, rest) =>
      numeral.number?.bind fun n => some (.number n, rest) := by
  unfold Token.read?
  split
  case h_11 => rfl
  all_goals
    rename_i heq
    obtain ⟨rfl, -⟩ := List.cons.inj heq
    exact absurd hc (by decide)

lemma exists_head_toString (i : ℤ) :
    ∃ c rest, (toString i).toList = c :: rest ∧ (c.isDigit = true ∨ c ∈ ['.', '-']) := by
  have hsigned := isSigned_toString i
  obtain ⟨c, rest, hcons⟩ := List.exists_cons_of_ne_nil hsigned.ne_nil
  exact ⟨c, rest, hcons, hsigned.isDigit_or c (by rw [hcons]; exact List.mem_cons_self)⟩

/-- The compact text of a scalar is one token. -/
lemma IsExact.read?_compact (h : j.IsExact) :
    Token.read? j.compact.toList = some (j.token, []) := by
  cases h with
  | null => rfl
  | bool b => cases b <;> rfl
  | @integer i hlow hhigh =>
    obtain ⟨c, rest, hcons, hc⟩ := exists_head_toString i
    have hread := Numeral.read?_toString i
    rw [hcons] at hread
    rw [compact, Number.text, hcons, read?_numeral hc, hread]
    simp only [Option.bind_some, Numeral.number?_ofInt hlow hhigh, token]
  | string s => exact Token.read?_quote s

/-- The compact text of a scalar starts with no white space. -/
lemma IsExact.exists_head_compact (h : j.IsExact) :
    ∃ c rest, j.compact.toList = c :: rest ∧ Token.isSpace c = false := by
  cases h with
  | null => exact ⟨'n', _, rfl, by decide⟩
  | bool b =>
    cases b
    · exact ⟨'f', _, rfl, by decide⟩
    · exact ⟨'t', _, rfl, by decide⟩
  | @integer i hlow hhigh =>
    obtain ⟨c, rest, hcons, hc⟩ := exists_head_toString i
    refine ⟨c, rest, hcons, ?_⟩
    simp only [Token.isSpace, Bool.or_eq_false_iff, beq_eq_false_iff_ne]
    refine ⟨⟨⟨?_, ?_⟩, ?_⟩, ?_⟩
    all_goals
      rintro rfl
      exact absurd hc (by decide)
  | string s => exact ⟨'"', _, String.toList_ofList, by decide⟩

/-- Nothing comes after the token of a scalar. -/
lemma IsExact.list?_compact (h : j.IsExact) : Token.list? j.compact = some [j.token] := by
  obtain ⟨c, rest, hcons, hspace⟩ := h.exists_head_compact
  have hread := h.read?_compact
  have hlength : j.compact.length = rest.length + 1 := by
    rw [← String.length_toList, hcons, List.length_cons]
  have hrest (count : ℕ) : Token.listOfLength? count [] = some [] := by
    cases count <;> rfl
  rw [hcons] at hread
  have hstart : (c :: rest).dropWhile Token.isSpace = c :: rest :=
    List.dropWhile_cons_of_neg (by simp [hspace])
  rw [Token.list?, hlength, hcons, Token.listOfLength?.eq_def]
  simp only [hstart, hread, Option.bind_eq_bind, Option.bind_some, hrest]

/-- A scalar is read back, also where no array or object would be read. -/
lemma IsExact.parse?_compact (h : j.IsExact) (depth : ℕ) : parse? depth j.compact = some j := by
  rw [parse?, h.list?_compact]
  cases h <;> cases depth <;> rfl

end SqlCompose.Json
