import Mathlib
import SqlCompose.Calendar.Reader
import SqlCompose.Proofs.Schema.Integer
import SqlCompose.Proofs.Text.Blank

/-!
# The forms of dates and times

Which texts are dates and points in time, said without a reader. The parts of such a text stand one
after the other: numbers of one or two digits, a year that may have a sign and then any number of
digits, marks between them, and blanks before each of these and at the end. The readers take the
texts of these forms and no others.
-/

namespace SqlCompose.Calendar

open Digits

/-! ### Forms -/

/-- A text of nothing but blanks. -/
def AreBlanks (s : List Char) : Prop := ∀ c ∈ s, isBlank c = true

/-- Blanks, and a number of at most `most` digits. -/
inductive IsField (most : ℕ) : List Char → ℕ → Prop
  | mk {blanks digits : List Char} (hblanks : AreBlanks blanks) (hdigits : IsRun digits)
      (hlength : digits.length ≤ most) : IsField most (blanks ++ digits) (spelled digits)

/-- Blanks, and a year of at most four digits or of a sign and any number of digits. -/
inductive IsYear : List Char → ℤ → Prop
  | unsigned {s : List Char} {n : ℕ} (h : IsField 4 s n) : IsYear s n
  | plus {blanks digits : List Char} (hblanks : AreBlanks blanks) (hdigits : IsRun digits) :
    IsYear (blanks ++ '+' :: digits) (spelled digits)
  | minus {blanks digits : List Char} (hblanks : AreBlanks blanks) (hdigits : IsRun digits) :
    IsYear (blanks ++ '-' :: digits) (-spelled digits)

/-- Blanks, and a mark. -/
inductive IsMark (c : Char) : List Char → Prop
  | mk {blanks : List Char} (hblanks : AreBlanks blanks) : IsMark c (blanks ++ [c])

/-- The nanoseconds of the digits behind the point. Filled up with zeros, the first nine count. -/
def nanoseconds (digits : List Char) : ℕ := spelled ((digits ++ List.replicate 9 '0').take 9)

/-- Nothing, or a point and the digits behind it. -/
inductive IsFraction : List Char → ℕ → Prop
  | none : IsFraction [] 0
  | digits {digits : List Char} (h : IsRun digits) : IsFraction ('.' :: digits) (nanoseconds digits)

/-- A year, a month and a day with hyphens between them. -/
inductive IsYearMonthDay : List Char → ℤ → ℕ → ℕ → Prop
  | mk {y m₁ mo m₂ da : List Char} {year : ℤ} {month day : ℕ} (hyear : IsYear y year)
      (hmark₁ : IsMark '-' m₁) (hmonth : IsField 2 mo month) (hmark₂ : IsMark '-' m₂)
      (hday : IsField 2 da day) : IsYearMonthDay (y ++ (m₁ ++ (mo ++ (m₂ ++ da)))) year month day

inductive IsDateText : List Char → Date → Prop
  | mk {s blanks : List Char} {d : Date} (h : IsYearMonthDay s d.year d.month d.day)
      (hend : AreBlanks blanks) : IsDateText (s ++ blanks) d

/-- The text of a point in time: a date and the shown time of day with a `T` between them. Of leap
seconds only those after second 59 have a text of their own. -/
inductive IsDateTimeText : List Char → DateTime → Prop
  | mk {date m₁ h m₂ mi m₃ se fr blanks : List Char} {t : DateTime}
      (hdate : IsYearMonthDay date t.date.year t.date.month t.date.day) (hmark₁ : IsMark 'T' m₁)
      (hhour : IsField 2 h t.time.hour) (hmark₂ : IsMark ':' m₂)
      (hminute : IsField 2 mi t.time.minute) (hmark₃ : IsMark ':' m₃)
      (hsecond : IsField 2 se t.time.shownSecond) (hfraction : IsFraction fr t.time.shownNanosecond)
      (hleap : t.time.IsLeap → t.time.second = 59) (hend : AreBlanks blanks) :
      IsDateTimeText (date ++ (m₁ ++ (h ++ (m₂ ++ (mi ++ (m₃ ++ (se ++ (fr ++ blanks)))))))) t

/-- A text that is the text of a date or of a point in time. -/
def IsDated (s : List Char) : Prop := (∃ d, IsDateText s d) ∨ ∃ t, IsDateTimeText s t

/-! ### Blanks and digits -/

variable {s rest digits blanks : List Char} {c : Char} {n most : ℕ}

lemma areBlanks_nil : AreBlanks [] := nofun

/-- A text that does not go on with a digit. -/
def Stops (s : List Char) : Prop := ∀ c ∈ s.head?, c.isDigit = false

lemma AreBlanks.trimStart_append (h : AreBlanks blanks) (s : List Char) :
    Chars.trimStart (blanks ++ s) = Chars.trimStart s := List.dropWhile_append_of_pos h

lemma trimStart_cons (hc : isBlank c = false) (s : List Char) :
    Chars.trimStart (c :: s) = c :: s :=
  Chars.trimStart_eq_self (by simpa using hc)

lemma trimStart_digits (h : IsRun digits) (rest : List Char) :
    Chars.trimStart (digits ++ rest) = digits ++ rest := by
  obtain ⟨c, digits, rfl⟩ := List.exists_cons_of_ne_nil h.ne_nil
  exact trimStart_cons (isBlank_of_isDigit (h.all c List.mem_cons_self)) _

lemma Stops.takeWhile_eq_nil (h : Stops s) : s.takeWhile Char.isDigit = [] := by
  cases s with
  | nil => rfl
  | cons c s => rw [List.takeWhile_cons_of_neg (by simp [h c rfl])]

lemma Stops.take (h : Stops s) (k : ℕ) : Stops (s.take k) := by
  cases k with
  | zero => exact nofun
  | succ k => cases s <;> exact h

lemma AreBlanks.stops (h : AreBlanks blanks) : Stops blanks := by
  intro c hc
  by_contra hdigit
  have hblank := h c (List.mem_of_mem_head? hc)
  simp [isBlank_of_isDigit (Bool.not_eq_false _ ▸ hdigit)] at hblank

/-! ### Readers -/

/-- A reader takes the texts of a form at the start of a text, where no digit comes next, and no
other texts. -/
structure Reads {α : Type} (read : List Char → Option (α × List Char))
    (form : List Char → α → Prop) : Prop where
  append {part rest : List Char} {a : α} (h : form part a) (hrest : Stops rest) :
    read (part ++ rest) = some (a, rest)
  exists_part {s rest : List Char} {a : α} (h : read s = some (a, rest)) :
    ∃ part, s = part ++ rest ∧ form part a

lemma takeWhile_append_stops (hdigits : ∀ c ∈ digits, c.isDigit = true) (hrest : Stops rest) :
    (digits ++ rest).takeWhile Char.isDigit = digits := by
  rw [List.takeWhile_append_of_pos hdigits, hrest.takeWhile_eq_nil, List.append_nil]

lemma dropWhile_append_stops (hdigits : ∀ c ∈ digits, c.isDigit = true) (hrest : Stops rest) :
    (digits ++ rest).dropWhile Char.isDigit = rest := by
  have hboth := List.takeWhile_append_dropWhile (p := Char.isDigit) (l := digits ++ rest)
  rw [takeWhile_append_stops hdigits hrest] at hboth
  exact List.append_cancel_left hboth

/-- A number field is read as its form says. -/
lemma reads_field : Reads (field? most) (IsField most) where
  append := by
    rintro _ rest _ ⟨hblanks, hdigits, hlength⟩ hrest
    rename_i blanks digits
    have hread : ((digits ++ rest).take most).takeWhile Char.isDigit = digits := by
      rw [List.take_append, List.take_of_length_le hlength,
        takeWhile_append_stops hdigits.all (hrest.take _)]
    simp [field?, hblanks.trimStart_append, trimStart_digits hdigits, hread, hdigits.ne_nil,
      value_eq_spelled]
  exists_part := by
    intro s rest n h
    obtain ⟨blanks, hblanks, hs⟩ := Chars.exists_eq_append_trimStart s
    unfold field? at h
    dsimp only at h
    split at h
    · cases h
    · rename_i hne
      obtain ⟨rfl, rfl⟩ := Prod.mk.inj (Option.some.inj h)
      generalize Chars.trimStart s = t at *
      have hprefix : (t.take most).takeWhile Char.isDigit <+: t :=
        (List.takeWhile_prefix _).trans (List.take_prefix _ _)
      have hlength : ((t.take most).takeWhile Char.isDigit).length ≤ most :=
        (List.takeWhile_prefix _).length_le.trans (List.length_take_le _ _)
      refine ⟨blanks ++ (t.take most).takeWhile Char.isDigit, ?_, ?_⟩
      · rw [List.append_assoc, List.prefix_iff_eq_append.mp hprefix]
        exact hs
      · rw [value_eq_spelled]
        exact .mk hblanks ⟨by simpa using hne, fun _ hc => List.mem_takeWhile_imp hc⟩ hlength

/-- A number without a sign, as one of a year. -/
lemma reads_run : Reads run? (fun s n => IsRun s ∧ n = spelled s) where
  append := by
    rintro digits rest _ ⟨hdigits, rfl⟩ hrest
    simp [run?, List.span_eq_takeWhile_dropWhile, takeWhile_append_stops hdigits.all hrest,
      dropWhile_append_stops hdigits.all hrest, hdigits.ne_nil, value_eq_spelled]
  exists_part := by
    intro s rest n h
    rw [run?, List.span_eq_takeWhile_dropWhile] at h
    dsimp only at h
    split at h
    · cases h
    · rename_i hne
      obtain ⟨rfl, rfl⟩ := Prod.mk.inj (Option.some.inj h)
      exact ⟨s.takeWhile Char.isDigit, List.takeWhile_append_dropWhile.symm,
        ⟨by simpa using hne, fun _ hc => List.mem_takeWhile_imp hc⟩, value_eq_spelled _⟩

/-- The sign of a year is the first character behind the blanks. -/
lemma reads_year : Reads year? IsYear where
  append := by
    intro part rest year h hrest
    cases h with
    | unsigned h =>
      obtain ⟨hblanks, hdigits, hlength⟩ := h
      rename_i blanks digits
      have hread := reads_field.append (.mk areBlanks_nil hdigits hlength) hrest
      have htrim : Chars.trimStart (blanks ++ digits ++ rest) = digits ++ rest := by
        rw [List.append_assoc, hblanks.trimStart_append, trimStart_digits hdigits]
      -- a digit stands behind the blanks, so no sign is read
      have hsign : ∀ c ∈ (digits ++ rest).head?, c ∉ ['-', '+'] := by
        rw [List.head?_append_of_ne_nil _ hdigits.ne_nil]
        exact hdigits.head_not_mem
      rw [List.nil_append] at hread
      unfold year?
      rw [htrim]
      split
      · rename_i heq
        exact absurd List.mem_cons_self (hsign '-' (by rw [heq]; rfl))
      · rename_i heq
        exact absurd (List.mem_cons_of_mem _ List.mem_cons_self) (hsign '+' (by rw [heq]; rfl))
      · rw [hread]
        rfl
    | plus hblanks hdigits =>
      have hread := reads_run.append ⟨hdigits, rfl⟩ hrest
      simp [year?, hblanks.trimStart_append, trimStart_cons (c := '+') (by decide), hread]
    | minus hblanks hdigits =>
      have hread := reads_run.append ⟨hdigits, rfl⟩ hrest
      simp [year?, hblanks.trimStart_append, trimStart_cons (c := '-') (by decide), hread]
  exists_part := by
    intro s rest year h
    obtain ⟨blanks, hblanks, hs⟩ := Chars.exists_eq_append_trimStart s
    unfold year? at h
    split at h
    · rename_i htrim
      obtain ⟨⟨n, rest'⟩, hread, heq⟩ := Option.map_eq_some_iff.mp h
      obtain ⟨rfl, rfl⟩ := Prod.mk.inj heq
      obtain ⟨digits, hpart, hdigits, rfl⟩ := reads_run.exists_part hread
      exact ⟨blanks ++ '-' :: digits, by simpa [htrim, hpart] using hs, .minus hblanks hdigits⟩
    · rename_i htrim
      obtain ⟨⟨n, rest'⟩, hread, heq⟩ := Option.map_eq_some_iff.mp h
      obtain ⟨rfl, rfl⟩ := Prod.mk.inj heq
      obtain ⟨digits, hpart, hdigits, rfl⟩ := reads_run.exists_part hread
      exact ⟨blanks ++ '+' :: digits, by simpa [htrim, hpart] using hs, .plus hblanks hdigits⟩
    · obtain ⟨⟨n, rest'⟩, hread, heq⟩ := Option.map_eq_some_iff.mp h
      obtain ⟨rfl, rfl⟩ := Prod.mk.inj heq
      obtain ⟨part, hpart, hblanks', hdigits, hlength⟩ := reads_field.exists_part hread
      rename_i blanks' digits
      refine ⟨blanks ++ (blanks' ++ digits), ?_, .unsigned ?_⟩
      · rw [List.append_assoc, ← hpart]
        exact hs
      · rw [← List.append_assoc]
        exact .mk (List.forall_mem_append.mpr ⟨hblanks, hblanks'⟩) hdigits hlength

/-- A mark is read exactly where one stands after blanks. -/
lemma mark?_eq_some_iff (hc : isBlank c = false) :
    mark? c s = some rest ↔ ∃ part, s = part ++ rest ∧ IsMark c part := by
  constructor
  · intro h
    obtain ⟨blanks, hblanks, hs⟩ := Chars.exists_eq_append_trimStart s
    unfold mark? at h
    split at h
    · rename_i htrim
      split at h
      · rename_i heq
        obtain rfl := Option.some.inj h
        obtain rfl := heq
        exact ⟨blanks ++ [_], by simpa [htrim] using hs, .mk hblanks⟩
      · cases h
    · cases h
  · rintro ⟨_, rfl, ⟨hblanks⟩⟩
    simp [mark?, hblanks.trimStart_append, trimStart_cons hc]

lemma IsMark.stops (h : IsMark c s) (hc : c.isDigit = false) (rest : List Char) :
    Stops (s ++ rest) := by
  obtain ⟨hblanks⟩ := h
  rename_i blanks
  cases blanks with
  | nil => simpa [Stops] using hc
  | cons b blanks => exact hblanks.stops

/-! ### Fractions -/

/-- A zero behind a number makes it ten times as large. -/
lemma spelled_append_zeros (digits : List Char) (k : ℕ) :
    spelled (digits ++ List.replicate k '0') = spelled digits * 10 ^ k := by
  induction k with
  | zero => simp
  | succ k ih =>
    have hlast : spelled (digits ++ List.replicate k '0' ++ ['0'])
        = 10 * spelled (digits ++ List.replicate k '0') := by
      simp [spelled, Nat.ofDigits_cons, digitValue]
    rw [List.replicate_succ', ← List.append_assoc, hlast, ih]
    ring

/-- What the reader counts is the number of the first nine digits, filled up with zeros. -/
lemma nanoseconds_eq (digits : List Char) :
    nanoseconds digits = value (digits.take 9) * Nat.pow 10 (9 - (digits.take 9).length) := by
  have hfilled : (digits ++ List.replicate 9 '0').take 9
      = digits.take 9 ++ List.replicate (9 - (digits.take 9).length) '0' := by
    rw [List.take_append, List.take_replicate, List.length_take]
    congr 2
    omega
  rw [nanoseconds, hfilled, spelled_append_zeros, value_eq_spelled]
  rfl

/-- A fraction is read whole where only blanks stand behind it. -/
lemma IsFraction.fraction?_append (h : IsFraction s n) (hblanks : AreBlanks blanks) :
    fraction? (s ++ blanks) = some (n, blanks) := by
  cases h with
  | none =>
    rw [List.nil_append]
    unfold fraction?
    split
    · exact absurd (hblanks '.' List.mem_cons_self) (by decide)
    · rfl
  | digits hdigits =>
    rename_i digits
    simp [fraction?, List.span_eq_takeWhile_dropWhile,
      takeWhile_append_stops hdigits.all hblanks.stops,
      dropWhile_append_stops hdigits.all hblanks.stops, hdigits.ne_nil, nanoseconds_eq]

/-- What is read as a fraction is one. -/
lemma exists_isFraction (h : fraction? s = some (n, rest)) :
    ∃ part, s = part ++ rest ∧ IsFraction part n := by
  unfold fraction? at h
  split at h
  · rename_i s
    rw [List.span_eq_takeWhile_dropWhile] at h
    dsimp only at h
    split at h
    · cases h
    · rename_i hne
      obtain ⟨rfl, rfl⟩ := Prod.mk.inj (Option.some.inj h)
      have hdigits : IsRun (s.takeWhile Char.isDigit) :=
        ⟨by simpa using hne, fun _ hc => List.mem_takeWhile_imp hc⟩
      rw [← nanoseconds_eq]
      exact ⟨'.' :: s.takeWhile Char.isDigit, by simp, .digits hdigits⟩
  · obtain ⟨rfl, rfl⟩ := Prod.mk.inj (Option.some.inj h)
    exact ⟨[], rfl, .none⟩

lemma IsFraction.stops (h : IsFraction s n) (hblanks : AreBlanks blanks) : Stops (s ++ blanks) := by
  cases h with
  | none => exact hblanks.stops
  | digits hdigits => simp [Stops, Char.isDigit]

/-! ### Dates -/

variable {year : ℤ} {month day : ℕ}

lemma ends_eq_true_iff : ends s = true ↔ AreBlanks s := List.all_eq_true

/-- A calendar day is read whole if no digit stands behind it. -/
lemma IsYearMonthDay.yearMonthDay?_append (h : IsYearMonthDay s year month day)
    (hrest : Stops rest) : yearMonthDay? (s ++ rest) = some (year, month, day, rest) := by
  obtain ⟨hyear, hmark₁, hmonth, hmark₂, hday⟩ := h
  have hhyphen : isBlank '-' = false := by decide
  simp only [yearMonthDay?, List.append_assoc, Option.bind_eq_bind,
    reads_year.append hyear (hmark₁.stops (by decide) _),
    (mark?_eq_some_iff hhyphen).mpr ⟨_, rfl, hmark₁⟩,
    reads_field.append hmonth (hmark₂.stops (by decide) _),
    (mark?_eq_some_iff hhyphen).mpr ⟨_, rfl, hmark₂⟩, reads_field.append hday hrest,
    Option.bind_some]

/-- What is read as a calendar day is one. -/
lemma exists_isYearMonthDay (h : yearMonthDay? s = some (year, month, day, rest)) :
    ∃ part, s = part ++ rest ∧ IsYearMonthDay part year month day := by
  have hhyphen : isBlank '-' = false := by decide
  simp only [yearMonthDay?, Option.bind_eq_bind, Option.bind_eq_some_iff, Prod.exists,
    Option.some.injEq, Prod.mk.injEq] at h
  obtain ⟨year, s₁, hyear, s₂, hmark₁, month, s₃, hmonth, s₄, hmark₂, day, s₅, hday, rfl, rfl, rfl,
    rfl⟩ := h
  obtain ⟨y, rfl, fyear⟩ := reads_year.exists_part hyear
  obtain ⟨m₁, rfl, fmark₁⟩ := (mark?_eq_some_iff hhyphen).mp hmark₁
  obtain ⟨mo, rfl, fmonth⟩ := reads_field.exists_part hmonth
  obtain ⟨m₂, rfl, fmark₂⟩ := (mark?_eq_some_iff hhyphen).mp hmark₂
  obtain ⟨da, rfl, fday⟩ := reads_field.exists_part hday
  exact ⟨_, by simp only [List.append_assoc], .mk fyear fmark₁ fmonth fmark₂ fday⟩

lemma date_of?_eq_some_iff {d : Date} :
    Date.of? year month day = some d ↔ d.year = year ∧ d.month = month ∧ d.day = day := by
  rw [Date.of?]
  constructor
  · intro h
    split at h
    · obtain rfl := Option.some.inj h
      exact ⟨rfl, rfl, rfl⟩
    · cases h
  · rintro ⟨rfl, rfl, rfl⟩
    exact dif_pos d.valid

/-- The reader of dates takes the texts of dates and no others. -/
lemma date?_eq_some_iff {s : String} {d : Date} : date? s = some d ↔ IsDateText s.toList d := by
  constructor
  · intro h
    simp only [date?, Option.bind_eq_bind, Option.bind_eq_some_iff, Prod.exists] at h
    obtain ⟨year, month, day, rest, hread, h⟩ := h
    split at h
    · rename_i hend
      obtain ⟨part, hs, hdate⟩ := exists_isYearMonthDay hread
      obtain ⟨rfl, rfl, rfl⟩ := date_of?_eq_some_iff.mp h
      rw [hs]
      exact .mk hdate (ends_eq_true_iff.mp hend)
    · cases h
  · intro h
    generalize hs : s.toList = chars at h
    obtain ⟨hdate, hend⟩ := h
    have hread := hdate.yearMonthDay?_append hend.stops
    simp [date?, hs, hread, ends_eq_true_iff.mpr hend, date_of?_eq_some_iff.mpr ⟨rfl, rfl, rfl⟩]

/-- The time of day with the numbers that are read is the one that shows them. -/
lemma timeOfDay_of?_eq_some_iff {hour minute second nanosecond : ℕ} {t : TimeOfDay} :
    TimeOfDay.of? hour minute second nanosecond = some t ↔
      t.hour = hour ∧ t.minute = minute ∧ t.shownSecond = second ∧
        t.shownNanosecond = nanosecond ∧ (t.IsLeap → t.second = 59) := by
  simp only [TimeOfDay.shownSecond, TimeOfDay.shownNanosecond, TimeOfDay.IsLeap]
  constructor
  · intro h
    unfold TimeOfDay.of? at h
    split_ifs at h with hvalid hsixty
    · obtain rfl := Option.some.inj h
      dsimp only
      exact ⟨rfl, rfl, by omega, by omega, fun _ => rfl⟩
    · -- no other second that is read is a leap second
      obtain rfl := Option.some.inj h
      dsimp only
      exact ⟨rfl, rfl, by omega, by omega, fun hleap => by omega⟩
  · rintro ⟨rfl, rfl, rfl, rfl, hleap⟩
    obtain ⟨hour, minute, second, nanosecond, hvalid⟩ := t
    dsimp only at hleap ⊢
    have hread : hour < 24 ∧ minute < 60 ∧ second + nanosecond / 1000000000 ≤ 60 ∧
        nanosecond % 1000000000 < 1000000000 := by omega
    rw [TimeOfDay.of?, dif_pos hread]
    split_ifs with hsixty <;> simp only [Option.some.injEq, TimeOfDay.mk.injEq, true_and] <;> omega

/-- The reader of points in time takes the texts of points in time and no others. -/
lemma dateTime?_eq_some_iff {s : String} {t : DateTime} :
    dateTime? s = some t ↔ IsDateTimeText s.toList t := by
  have hT : isBlank 'T' = false := by decide
  have hcolon : isBlank ':' = false := by decide
  constructor
  · intro h
    simp only [dateTime?, Option.bind_eq_bind, Option.bind_eq_some_iff, Prod.exists] at h
    obtain ⟨year, month, day, s₁, hdate, s₂, hmark₁, hour, s₃, hhour, s₄, hmark₂, minute, s₅,
      hminute, s₆, hmark₃, second, s₇, hsecond, nanosecond, s₈, hfraction, d, hd, u, hu, h⟩ := h
    split at h
    · rename_i hend
      obtain rfl := Option.some.inj h
      obtain ⟨rfl, rfl, rfl⟩ := date_of?_eq_some_iff.mp hd
      obtain ⟨rfl, rfl, rfl, rfl, hleap⟩ := timeOfDay_of?_eq_some_iff.mp hu
      obtain ⟨date, hs, fdate⟩ := exists_isYearMonthDay hdate
      obtain ⟨m₁, rfl, fmark₁⟩ := (mark?_eq_some_iff hT).mp hmark₁
      obtain ⟨ho, rfl, fhour⟩ := reads_field.exists_part hhour
      obtain ⟨m₂, rfl, fmark₂⟩ := (mark?_eq_some_iff hcolon).mp hmark₂
      obtain ⟨mi, rfl, fminute⟩ := reads_field.exists_part hminute
      obtain ⟨m₃, rfl, fmark₃⟩ := (mark?_eq_some_iff hcolon).mp hmark₃
      obtain ⟨se, rfl, fsecond⟩ := reads_field.exists_part hsecond
      obtain ⟨fr, rfl, ffraction⟩ := exists_isFraction hfraction
      rw [hs]
      exact .mk fdate fmark₁ fhour fmark₂ fminute fmark₃ fsecond ffraction hleap
        (ends_eq_true_iff.mp hend)
    · cases h
  · intro h
    generalize hs : s.toList = chars at h
    obtain ⟨hdate, hmark₁, hhour, hmark₂, hminute, hmark₃, hsecond, hfraction, hleap, hend⟩ := h
    simp only [dateTime?, hs, Option.bind_eq_bind, Option.bind_some,
      hdate.yearMonthDay?_append (hmark₁.stops (by decide) _),
      (mark?_eq_some_iff hT).mpr ⟨_, rfl, hmark₁⟩,
      reads_field.append hhour (hmark₂.stops (by decide) _),
      (mark?_eq_some_iff hcolon).mpr ⟨_, rfl, hmark₂⟩,
      reads_field.append hminute (hmark₃.stops (by decide) _),
      (mark?_eq_some_iff hcolon).mpr ⟨_, rfl, hmark₃⟩,
      reads_field.append hsecond (hfraction.stops hend), hfraction.fraction?_append hend,
      date_of?_eq_some_iff.mpr ⟨rfl, rfl, rfl⟩,
      timeOfDay_of?_eq_some_iff.mpr ⟨rfl, rfl, rfl, rfl, hleap⟩,
      ends_eq_true_iff.mpr hend, if_true]

end SqlCompose.Calendar
