import Mathlib
import SqlCompose.Proofs.Calendar.Form
import SqlCompose.Proofs.Number.Numeral
import SqlCompose.Proofs.Number.Shortest

/-!
# The texts of dates and times

A date is written in the form of dates, also where its year needs a sign, and a point in time in the
form of points in time, with a fraction of three, six or nine digits or none. The readers give back
what was written, except for a leap second within a minute: it has the text of the next second, and
that one is read. No text has both forms: a point in time has a `T`, and a date has none.
-/

namespace SqlCompose

/-! ### Padded numerals -/

namespace Digits

variable {width n : ℕ}

lemma isRun_padded (width n : ℕ) : IsRun (padded width n).toList := by
  rw [padded, String.toList_append, String.toList_ofList]
  exact .append_left isDigit_of_mem_zeros (isRun_toString n)

lemma value_zeros_append (k : ℕ) (digits : List Char) :
    value (List.replicate k '0' ++ digits) = value digits := by
  induction k with
  | zero => rfl
  | succ k ih => exact ih

/-- Padding with zeros does not change the number that is spelled. -/
lemma spelled_padded (width n : ℕ) : spelled (padded width n).toList = n := by
  rw [padded, String.toList_append, String.toList_ofList, ← value_eq_spelled, value_zeros_append,
    Nat.toString_eq_ofList_toDigits, String.toList_ofList, value_toDigits]

/-- A number that fits the width is filled up to it. -/
lemma length_padded (hwidth : 0 < width) (hn : n < 10 ^ width) :
    (padded width n).toList.length = width := by
  have hlength := (length_toString_le_iff hwidth).mpr hn
  rw [padded, String.toList_append, String.toList_ofList, List.length_append,
    List.length_replicate, String.length_toList]
  omega

end Digits

/-! ### Leap seconds -/

namespace TimeOfDay

/-- The time of day that the text of one is read as. A leap second within a minute has the text of
the second after it. -/
def readBack (t : TimeOfDay) : TimeOfDay :=
  if h : t.IsLeap ∧ t.second ≠ 59 then
    ⟨t.hour, t.minute, t.second + 1, t.nanosecond - 1000000000, by
      obtain ⟨hhour, hminute, hsecond, hnanosecond⟩ := t.valid
      omega⟩
  else t

variable (t : TimeOfDay)

/-- A leap second is read back only after second 59. -/
lemma second_readBack_of_isLeap : t.readBack.IsLeap → t.readBack.second = 59 := by
  obtain ⟨-, -, -, hnanosecond⟩ := t.valid
  unfold readBack
  split_ifs with h
  · intro hleap
    change 1000000000 ≤ t.nanosecond - 1000000000 at hleap
    omega
  · intro hleap
    by_contra hsecond
    exact h ⟨hleap, hsecond⟩

/-- The times of day that are read as themselves. -/
lemma readBack_eq_self_iff : t.readBack = t ↔ (t.IsLeap → t.second = 59) := by
  constructor
  · intro h
    have hsecond := t.second_readBack_of_isLeap
    rwa [h] at hsecond
  · intro h
    exact dif_neg fun hearly => hearly.2 (h hearly.1)

/-- A time of day that is read back shows the same second. -/
lemma shownSecond_readBack : t.readBack.shownSecond = t.shownSecond := by
  obtain ⟨-, -, -, hnanosecond⟩ := t.valid
  unfold readBack
  split_ifs with h
  · have hleap : 1000000000 ≤ t.nanosecond := h.1
    show t.second + 1 + (t.nanosecond - 1000000000) / 1000000000 =
      t.second + t.nanosecond / 1000000000
    omega
  · rfl

lemma shownNanosecond_readBack : t.readBack.shownNanosecond = t.shownNanosecond := by
  unfold readBack
  split_ifs with h
  · have hleap : 1000000000 ≤ t.nanosecond := h.1
    show (t.nanosecond - 1000000000) % 1000000000 = t.nanosecond % 1000000000
    omega
  · rfl

lemma text_readBack : t.readBack.text = t.text := by
  have hhour : t.readBack.hour = t.hour := by unfold readBack; split_ifs <;> rfl
  have hminute : t.readBack.minute = t.minute := by unfold readBack; split_ifs <;> rfl
  rw [text, text, hhour, hminute, shownSecond_readBack]

lemma fractionText_readBack : t.readBack.fractionText = t.fractionText := by
  rw [fractionText, fractionText, shownNanosecond_readBack]

end TimeOfDay

namespace Calendar

open Digits

variable {s : List Char} {width n : ℕ}

/-! ### Parts -/

/-- A padded number is a field of its width. -/
lemma isField_padded (width n : ℕ) (hwidth : 0 < width) (hn : n < 10 ^ width) :
    IsField width (padded width n).toList n := by
  have hfield := IsField.mk areBlanks_nil (isRun_padded width n) (length_padded hwidth hn).le
  rwa [List.nil_append, spelled_padded] at hfield

lemma isMark_singleton (c : Char) : IsMark c [c] := .mk areBlanks_nil

/-- A year is written with a sign where four digits do not do. -/
lemma isYear_yearText (year : ℤ) : IsYear (Date.yearText year).toList year := by
  have hdigits := isRun_padded 4 year.natAbs
  have hspelled := spelled_padded 4 year.natAbs
  unfold Date.yearText
  split_ifs with hnegative hlarge
  · have hyear := IsYear.minus areBlanks_nil hdigits
    rw [hspelled, Int.ofNat_natAbs_of_nonpos hnegative.le, neg_neg] at hyear
    rw [String.toList_append]
    exact hyear
  · have hyear := IsYear.plus areBlanks_nil hdigits
    rw [hspelled, Int.natAbs_of_nonneg (by omega)] at hyear
    rw [String.toList_append]
    exact hyear
  · have hyear := IsYear.unsigned (isField_padded 4 year.natAbs (by decide) (by omega))
    rwa [Int.natAbs_of_nonneg (by omega)] at hyear

/-- Of a fraction as many digits count as were written. -/
lemma nanoseconds_padded (hwidth : 0 < width) (hmost : width ≤ 9) (hn : n < 10 ^ width) :
    nanoseconds (padded width n).toList = n * 10 ^ (9 - width) := by
  rw [nanoseconds, List.take_append, length_padded hwidth hn, List.take_replicate,
    List.take_of_length_le (by rw [length_padded hwidth hn]; exact hmost), spelled_append_zeros,
    spelled_padded, min_eq_left (by omega)]

/-- The digits behind the point are read as the nanoseconds that they were written for. -/
lemma isFraction_padded (width n : ℕ) (hwidth : 0 < width) (hmost : width ≤ 9)
    (hn : n < 10 ^ width) : IsFraction ("." ++ padded width n).toList (n * 10 ^ (9 - width)) := by
  rw [← nanoseconds_padded hwidth hmost hn, String.toList_append]
  exact .digits (isRun_padded width n)

/-- The fewest digits that hold the nanoseconds lose none of them. -/
lemma isFraction_fractionText (t : TimeOfDay) :
    IsFraction t.fractionText.toList t.shownNanosecond := by
  have hnanosecond : t.shownNanosecond < 1000000000 := Nat.mod_lt _ (by decide)
  unfold TimeOfDay.fractionText
  generalize t.shownNanosecond = n at hnanosecond ⊢
  dsimp only
  split_ifs with hzero hmilli hmicro
  · rw [hzero]
    exact .none
  · have hfraction := isFraction_padded 3 (n / 1000000) (by decide) (by decide) (by omega)
    rwa [show n / 1000000 * 10 ^ (9 - 3) = n by omega] at hfraction
  · have hfraction := isFraction_padded 6 (n / 1000) (by decide) (by decide) (by omega)
    rwa [show n / 1000 * 10 ^ (9 - 6) = n by omega] at hfraction
  · have hfraction := isFraction_padded 9 n (by decide) (by decide) (by omega)
    rwa [Nat.sub_self, pow_zero, Nat.mul_one] at hfraction

/-! ### Dates -/

lemma daysInMonth_le (year : ℤ) (month : ℕ) : Date.daysInMonth year month ≤ 31 := by
  unfold Date.daysInMonth
  split <;> (try split) <;> decide

lemma month_le_of_valid {year : ℤ} {month day : ℕ} (h : Date.IsValid year month day) :
    month ≤ 12 := by
  by_contra hmonth
  have hnone : Date.daysInMonth year month = 0 := by
    unfold Date.daysInMonth
    split <;> omega
  obtain ⟨-, hday, hdays⟩ := h
  omega

/-- The year, month and day of a date are read from its text. -/
lemma isYearMonthDay_text (d : Date) : IsYearMonthDay d.text.toList d.year d.month d.day := by
  have hmonth := month_le_of_valid d.valid
  have hday := d.valid.2.2.trans (daysInMonth_le _ _)
  have hdate := IsYearMonthDay.mk (isYear_yearText d.year) (isMark_singleton '-')
    (isField_padded 2 d.month (by decide) (by omega)) (isMark_singleton '-')
    (isField_padded 2 d.day (by decide) (by omega))
  simpa [Date.text] using hdate

lemma isDateText_text (d : Date) : IsDateText d.text.toList d := by
  have hdate := IsDateText.mk (isYearMonthDay_text d) areBlanks_nil
  rwa [List.append_nil] at hdate

/-! ### Points in time -/

/-- A time of day has a text of its own unless it lies in a leap second within a minute. -/
lemma isDateTimeText_isoText (t : DateTime) (h : t.time.IsLeap → t.time.second = 59) :
    IsDateTimeText t.isoText.toList t := by
  obtain ⟨hhour, hminute, hsecond, hnanosecond⟩ := t.time.valid
  have hshown : t.time.shownSecond < 10 ^ 2 := by
    unfold TimeOfDay.shownSecond
    omega
  have htime := IsDateTimeText.mk (isYearMonthDay_text t.date) (isMark_singleton 'T')
    (isField_padded 2 t.time.hour (by decide) (by omega)) (isMark_singleton ':')
    (isField_padded 2 t.time.minute (by decide) (by omega)) (isMark_singleton ':')
    (isField_padded 2 t.time.shownSecond (by decide) hshown)
    (isFraction_fractionText t.time) h areBlanks_nil
  simpa [DateTime.isoText, TimeOfDay.text] using htime

/-- What is read from the text of any point in time. -/
lemma isDateTimeText_isoText_readBack (t : DateTime) :
    IsDateTimeText t.isoText.toList ⟨t.date, t.time.readBack⟩ := by
  have htext : t.isoText = DateTime.isoText ⟨t.date, t.time.readBack⟩ := by
    simp only [DateTime.isoText, t.time.text_readBack, t.time.fractionText_readBack]
  rw [htext]
  exact isDateTimeText_isoText _ t.time.second_readBack_of_isLeap

/-! ### One form only -/

/-- A character of a date: a blank, a digit or a sign. -/
def IsDateChar (c : Char) : Prop := isBlank c = true ∨ c.isDigit = true ∨ c ∈ ['-', '+']

lemma AreBlanks.isDateChar (h : AreBlanks s) : ∀ c ∈ s, IsDateChar c := fun c hc => .inl (h c hc)

lemma isDateChar_of_isRun (h : IsRun s) : ∀ c ∈ s, IsDateChar c :=
  fun c hc => .inr (.inl (h.all c hc))

lemma IsField.isDateChar (h : IsField width s n) : ∀ c ∈ s, IsDateChar c := by
  obtain ⟨hblanks, hdigits, -⟩ := h
  exact List.forall_mem_append.mpr ⟨hblanks.isDateChar, isDateChar_of_isRun hdigits⟩

lemma IsYear.isDateChar {year : ℤ} (h : IsYear s year) : ∀ c ∈ s, IsDateChar c := by
  have hsigned {sign : Char} {blanks digits : List Char} (hsign : sign ∈ ['-', '+'])
      (hblanks : AreBlanks blanks) (hdigits : IsRun digits) :
      ∀ c ∈ blanks ++ sign :: digits, IsDateChar c :=
    List.forall_mem_append.mpr ⟨hblanks.isDateChar,
      List.forall_mem_cons.mpr ⟨.inr (.inr hsign), isDateChar_of_isRun hdigits⟩⟩
  cases h with
  | unsigned h => exact h.isDateChar
  | plus hblanks hdigits => exact hsigned (by decide) hblanks hdigits
  | minus hblanks hdigits => exact hsigned (by decide) hblanks hdigits

lemma isDateChar_of_isMark (h : IsMark '-' s) : ∀ c ∈ s, IsDateChar c := by
  obtain ⟨hblanks⟩ := h
  exact List.forall_mem_append.mpr ⟨hblanks.isDateChar, by simp [IsDateChar]⟩

/-- The text of a date holds blanks, digits and signs only, so it is not taken for a time. -/
lemma IsDateText.isDateChar {d : Date} (h : IsDateText s d) : ∀ c ∈ s, IsDateChar c := by
  obtain ⟨⟨hyear, hmark₁, hmonth, hmark₂, hday⟩, hend⟩ := h
  simp only [List.forall_mem_append]
  exact ⟨⟨hyear.isDateChar, isDateChar_of_isMark hmark₁, hmonth.isDateChar,
    isDateChar_of_isMark hmark₂, hday.isDateChar⟩, hend.isDateChar⟩

/-- The text of a date is not the text of a point in time. -/
lemma IsDateText.not_isDateTimeText {d : Date} (h : IsDateText s d) (t : DateTime) :
    ¬IsDateTimeText s t := by
  intro htime
  -- the `T` of a point in time is no character of a date
  have hmem : 'T' ∈ s := by
    obtain ⟨-, ⟨-⟩, -⟩ := htime
    simp
  have hchar := h.isDateChar 'T' hmem
  revert hchar
  simp only [IsDateChar]
  decide

end Calendar

end SqlCompose
