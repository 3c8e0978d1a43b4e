import Mathlib
import SqlCompose.Lookup.Basic
import SqlCompose.Proofs.Text.Split

/-!
# Keys of lookups

A key is a field alone, or a field, two underscores and the name of a lookup. Each key is read in at
most one way: no name of a lookup has two underscores or starts with one, so the last two of a key
stand before the name, whatever underscores the field has. Every other key is malformed.
-/

namespace SqlCompose

namespace Lookup

/-! ### Names -/

/-- Every lookup is found by its own name only. -/
lemma ofName?_eq_some_iff {name : String} {lookup : Lookup} :
    ofName? name = some lookup ↔ lookup.name = name := by
  constructor
  · intro h
    have hname := List.find?_some h
    exact beq_iff_eq.mp hname
  · rintro rfl
    cases lookup with
    | part p => cases p <;> rfl
    | _ => rfl

/-- Behind two underscores, the name of a lookup holds no further two. -/
lemma not_infix_name (lookup : Lookup) :
    ¬ ['_', '_'] <:+: (['_', '_'] ++ lookup.name.toList).tail := by
  cases lookup with
  | part p => cases p <;> decide
  | _ => decide

/-- No name of a lookup has two underscores in a row, so the last two divide the key. -/
lemma splitLast_name (field : String) (lookup : Lookup) :
    Text.splitLast "__" (field ++ "__" ++ lookup.name) = some (field, lookup.name) := by
  have hlast := Chars.splitLast_append lookup.not_infix_name field.toList
  rw [Text.splitLast, String.toList_append, String.toList_append]
  exact (congrArg _ hlast).trans (by simp)

/-! ### Keys -/

/-- What a key asks for. -/
inductive Key : String → String → Lookup → Prop
  /-- Without two underscores, a key is a field that is asked for equality. -/
  | field {field : String} (h : ¬ ['_', '_'] <:+: field.toList) : Key field field .exact
  | lookup {field : String} (h : field ≠ "") (lookup : Lookup) :
    Key (field ++ "__" ++ lookup.name) field lookup

variable {key field : String} {lookup : Lookup}

lemma splitKey_of_key (h : Key key field lookup) : splitKey key = .ok (field, lookup) := by
  cases h with
  | field h =>
    have hnone : Text.splitLast "__" key = none := by
      rw [Text.splitLast, Option.map_eq_none_iff]
      exact Chars.splitLast_eq_none_iff.mpr h
    rw [splitKey, hnone]
  | lookup h =>
    have hfield : field.isEmpty = false := by simpa [String.isEmpty_iff] using h
    simp [splitKey, splitLast_name, hfield, ofName?_eq_some_iff.mpr rfl]

/-- What a key is split into is what it asks for, and nothing is refused as anything but
malformed. -/
lemma splitKey_cases (key : String) :
    (∃ field lookup, splitKey key = .ok (field, lookup) ∧ Key key field lookup) ∨
      ∃ message, splitKey key = .error (.malformedCondition message) := by
  unfold splitKey
  cases hsplit : Text.splitLast "__" key with
  | none =>
    rw [Text.splitLast, Option.map_eq_none_iff] at hsplit
    exact .inl ⟨key, .exact, rfl, .field (Chars.splitLast_eq_none_iff.mp hsplit)⟩
  | some pieces =>
    obtain ⟨field, name⟩ := pieces
    obtain ⟨⟨before, rest⟩, hchars, hpieces⟩ := Option.map_eq_some_iff.mp hsplit
    obtain ⟨rfl, rfl⟩ := Prod.mk.inj hpieces
    have hkey : key = .ofList before ++ "__" ++ .ofList rest := by
      rw [← String.toList_inj, Chars.splitLast_eq_some hchars]
      simp
    dsimp only
    split
    · exact .inr ⟨_, rfl⟩
    · rename_i hfield
      cases hname : ofName? (.ofList rest) with
      | none => exact .inr ⟨_, rfl⟩
      | some lookup =>
        refine .inl ⟨_, lookup, rfl, ?_⟩
        rw [hkey, ← ofName?_eq_some_iff.mp hname]
        exact .lookup (mt String.isEmpty_iff.mpr hfield) lookup

/-- A key is split into the field and the lookup that it asks for, and is malformed if it asks for
none. Any field that is not empty can be asked for with any lookup. -/
theorem splitKey_eq_ok_iff (key : String) :
    (∀ field lookup, splitKey key = .ok (field, lookup) ↔ Key key field lookup) ∧
    (∀ field lookup, field ≠ "" →
      splitKey (field ++ "__" ++ lookup.name) = .ok (field, lookup)) ∧
    ((∃ message, splitKey key = .error (.malformedCondition message)) ↔
      ∀ field lookup, ¬ Key key field lookup) := by
  refine ⟨fun field lookup => ⟨fun h => ?_, splitKey_of_key⟩,
    fun field lookup h => splitKey_of_key (.lookup h lookup), ⟨?_, fun h => ?_⟩⟩
  · rcases splitKey_cases key with ⟨field', lookup', hok, hkey⟩ | ⟨message, herror⟩
    · obtain ⟨rfl, rfl⟩ := Prod.mk.inj (Except.ok.inj (hok.symm.trans h))
      exact hkey
    · simp [herror] at h
  · rintro ⟨message, herror⟩ field lookup hkey
    simp [splitKey_of_key hkey] at herror
  · rcases splitKey_cases key with ⟨field, lookup, -, hkey⟩ | herror
    · exact absurd hkey (h field lookup)
    · exact herror

/-- The last of three underscores belong to the separator, and the one in a name to the name. -/
theorem splitKey_eq_ok_iff_underscores :
    "a_" ≠ "" ∧ "a_" ++ "__" ++ (Lookup.part .weekDay).name = "a___week_day" ∧
    splitKey "a___week_day" = .ok ("a_", .part .weekDay) ∧
    splitKey "__week_day" = .error (.malformedCondition "lookup key '__week_day' has no field") :=
  ⟨by decide, by decide,
    (splitKey_eq_ok_iff "a___week_day").2.1 "a_" (.part .weekDay) (by decide), by rfl⟩

end Lookup

end SqlCompose
