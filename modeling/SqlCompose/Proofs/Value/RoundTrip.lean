import Mathlib
import SqlCompose.Value.Json
import SqlCompose.Proofs.Calendar.Text
import SqlCompose.Proofs.Json.Scalar

/-!
# Values written and read back

A value that is no float is written as a scalar that is read back exactly. What is left is the text
that this scalar may be. It is tried as a point in time, then as a date, and is a text only where it
is neither: dates come back as they were, points in time do unless they lie in a leap second within
a minute, whose text is that of the next second, and of the texts those do that have the form of
neither.
-/

namespace SqlCompose.Value

open Calendar

variable {s : String} {v : Value}

/-! ### Texts -/

/-- The text of a point in time is read back with the time of day as it was shown. -/
lemma ofDatedText_isoText (t : DateTime) :
    ofDatedText t.isoText = .dateTime ⟨t.date, t.time.readBack⟩ := by
  rw [ofDatedText, dateTime?_eq_some_iff.mpr (isDateTimeText_isoText_readBack t)]

lemma ofDatedText_isoText_eq_iff {t : DateTime} :
    ofDatedText t.isoText = .dateTime t ↔ (t.time.IsLeap → t.time.second = 59) := by
  rw [ofDatedText_isoText, ← TimeOfDay.readBack_eq_self_iff]
  obtain ⟨date, time⟩ := t
  simp

/-- A date is not taken for a point in time. -/
lemma dateTime?_text_eq_none (d : Date) : dateTime? d.text = none := by
  rw [Option.eq_none_iff_forall_ne_some]
  intro t htime
  exact (isDateText_text d).not_isDateTimeText t (dateTime?_eq_some_iff.mp htime)

lemma ofDatedText_text (d : Date) : ofDatedText d.text = .date d := by
  rw [ofDatedText, dateTime?_text_eq_none, date?_eq_some_iff.mpr (isDateText_text d)]

lemma ofDatedText_eq_text_iff : ofDatedText s = .text s ↔ ¬IsDated s.toList := by
  simp only [IsDated, ← date?_eq_some_iff, ← dateTime?_eq_some_iff]
  unfold ofDatedText
  cases dateTime? s <;> cases date? s <;> simp

/-! ### Values -/

/-- Json holds every value but floats exactly. -/
lemma isExact_toJson (h : ∀ x, v ≠ .float x) : v.toJson.IsExact := by
  cases v with
  | null => exact .null
  | bool b => exact .bool b
  | int n => exact .integer n.le_toInt (n.toInt_lt.trans (by decide))
  | float x => exact absurd rfl (h x)
  | dateTime t => exact .string _
  | date d => exact .string _
  | text s => exact .string s

/-- What is written as text is read back by its form. -/
lemma deserialize?_serialize_dateTime (t : DateTime) :
    deserialize? (serialize (.dateTime t)) = some (ofDatedText t.isoText) := by
  rw [deserialize?, serialize, (isExact_toJson (v := .dateTime t) nofun).parse?_compact]
  rfl

/-- A value that is no float is read back from its Json, variant and all, unless it is a text in the
form of a date or of a point in time, or a leap second within a minute, which is read as the second
after it. -/
theorem deserialize?_serialize_eq_iff (v : Value) (h : ∀ x, v ≠ .float x) :
    (deserialize? v.serialize = some v ↔
      (∀ s, v = .text s → ¬IsDated s.toList) ∧
      ∀ t, v = .dateTime t → t.time.IsLeap → t.time.second = 59) ∧
    ∀ t, v = .dateTime t →
      deserialize? v.serialize = some (.dateTime ⟨t.date, t.time.readBack⟩) := by
  refine ⟨?_, ?_⟩
  · rw [deserialize?, serialize, (isExact_toJson h).parse?_compact]
    cases v with
    | null | bool b => simp [toJson]
    | int n => simp [toJson, ofJsonNumber, int64?_eq_some_iff.mpr rfl]
    | float x => exact absurd rfl (h x)
    | dateTime t => simp [toJson, ofDatedText_isoText_eq_iff]
    | date d => simp [toJson, ofDatedText_text]
    | text s => simp [toJson, ofDatedText_eq_text_iff]
  · rintro t rfl
    rw [deserialize?_serialize_dateTime, ofDatedText_isoText]

/-- A leap second long before the common era, with a fraction of nine digits. -/
def ancientLeapSecond : DateTime where
  date := ⟨-44, 3, 15, by decide⟩
  time := ⟨23, 59, 59, 1000000001, by decide⟩

theorem deserialize?_serialize_eq_iff_ancientLeapSecond :
    serialize (.dateTime ancientLeapSecond) = "\"-0044-03-15T23:59:60.000000001\"" ∧
      (∀ x, Value.dateTime ancientLeapSecond ≠ .float x) ∧ ancientLeapSecond.time.IsLeap ∧
      deserialize? (serialize (.dateTime ancientLeapSecond)) =
        some (.dateTime ancientLeapSecond) := by
  refine ⟨by decide +kernel, nofun, by decide, ?_⟩
  apply (deserialize?_serialize_eq_iff (.dateTime ancientLeapSecond) nofun).1.mpr
  refine ⟨nofun, fun t h _ => ?_⟩
  rw [← Value.dateTime.inj h]
  rfl

/-- A leap second that follows the fourth second of a minute. -/
def earlyLeapSecond : DateTime where
  date := ⟨2024, 5, 6, by decide⟩
  time := ⟨23, 56, 4, 1333333333, by decide⟩

/-- It has the text of the fifth second, and that one is read back. -/
theorem deserialize?_serialize_earlyLeapSecond :
    serialize (.dateTime earlyLeapSecond) = "\"2024-05-06T23:56:05.333333333\"" ∧
      deserialize? (serialize (.dateTime earlyLeapSecond)) =
        some (.dateTime ⟨⟨2024, 5, 6, by decide⟩, ⟨23, 56, 5, 333333333, by decide⟩⟩) ∧
      deserialize? (serialize (.dateTime earlyLeapSecond)) ≠ some (.dateTime earlyLeapSecond) := by
  refine ⟨?_, ?_, ?_⟩ <;> decide +kernel

/-- A date is not written so, but read. -/
example : deserialize? (serialize (.text "2024-2 - 29 ")) =
    some (.date ⟨2024, 2, 29, by decide⟩) := by
  decide +kernel

end SqlCompose.Value
