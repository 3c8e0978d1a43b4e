import Mathlib
import SqlCompose.Proofs.Json.Reading

/-!
# Documents that stand for no condition

Every reader that refuses something refuses it as a malformed condition, so a document that the
rules derive no condition for is refused so.
-/

namespace SqlCompose

/-! ### Malformed conditions -/

section

variable {α β : Type} {x : Outcome α} {f : α → Outcome β}

/-- An outcome that is no error but that of a malformed condition. -/
def FailsMalformed (x : Outcome α) : Prop :=
  ∀ e, x = .error e → ∃ message, e = .malformedCondition message

lemma FailsMalformed.ok (a : α) : FailsMalformed (.ok a) := nofun

lemma FailsMalformed.error (message : String) :
    FailsMalformed (.error (.malformedCondition message) : Outcome α) :=
  fun _ h => ⟨message, (Except.error.inj h).symm⟩

/-- One step after another fails as malformed if each of them does. -/
lemma FailsMalformed.bind (hx : FailsMalformed x) (hf : ∀ a, FailsMalformed (f a)) :
    FailsMalformed (x >>= f) := by
  cases x with
  | error e => exact fun e' h => hx e' (by cases h; rfl)
  | ok a => exact hf a

lemma FailsMalformed.map (hx : FailsMalformed x) (g : α → β) : FailsMalformed (x.map g) := by
  cases x with
  | error e => exact fun e' h => hx e' (by cases h; rfl)
  | ok a => exact .ok (g a)

lemma FailsMalformed.mapM (hf : ∀ a, FailsMalformed (f a)) (xs : List α) :
    FailsMalformed (xs.mapM f) := by
  induction xs with
  | nil => exact .ok []
  | cons x xs ih =>
    rw [List.mapM_cons]
    exact (hf x).bind fun y => ih.bind fun ys => .ok (y :: ys)

end

namespace Grammar

/-! ### Refusals -/

lemma failsMalformed_value (j : Json) : FailsMalformed (Value.ofJson j) := by
  cases j with
  | null | bool | number | string => exact .ok _
  | array | object => exact .error _

lemma failsMalformed_listOfJson (js : List Json) : FailsMalformed (Value.listOfJson js) :=
  .mapM failsMalformed_value js

lemma failsMalformed_column (op : String) (j : Json) :
    FailsMalformed (Condition.columnOfJson op j) := by
  unfold Condition.columnOfJson
  split
  · split
    · exact .error _
    · exact .ok _
  · exact .error _

lemma failsMalformed_values (j : Json) : FailsMalformed (Condition.valuesOfJson j) := by
  unfold Condition.valuesOfJson
  split
  · exact failsMalformed_listOfJson _
  · exact (failsMalformed_value _).map _

lemma failsMalformed_operand (j : Json) : FailsMalformed (Condition.operandOfJson j) := by
  unfold Condition.operandOfJson
  split
  · exact (failsMalformed_listOfJson _).map _
  · exact (failsMalformed_value _).map _

lemma failsMalformed_row (op : String) (j : Json) : FailsMalformed (Condition.rowOfJson op j) := by
  unfold Condition.rowOfJson
  split
  · exact failsMalformed_listOfJson _
  · exact .error _

lemma failsMalformed_between (op : String) (negated : Bool) (js : List Json) :
    FailsMalformed (Condition.betweenOfJson op negated js) := by
  unfold Condition.betweenOfJson
  split
  · exact (failsMalformed_column _ _).bind fun _ => (failsMalformed_value _).bind fun _ =>
      (failsMalformed_value _).bind fun _ => .ok _
  · exact .error _

lemma failsMalformed_within (op : String) (negated : Bool) (js : List Json) :
    FailsMalformed (Condition.withinOfJson op negated js) := by
  unfold Condition.withinOfJson
  split
  · refine FailsMalformed.bind (.mapM (failsMalformed_column _) _) fun _ => ?_
    split
    · exact FailsMalformed.bind (.mapM (failsMalformed_row _) _) fun _ => .ok _
    · exact .error _
  · exact (failsMalformed_values _).bind fun _ => (failsMalformed_column _ _).bind fun _ => .ok _
  · exact .error _

lemma failsMalformed_like (op : String) (family : LikeOp) (js : List Json) :
    FailsMalformed (Condition.likeOfJson op family js) := by
  have hflag (j : Json) : FailsMalformed (Condition.flagOfJson op j) := by
    unfold Condition.flagOfJson
    split
    · exact .ok _
    · exact .error _
  unfold Condition.likeOfJson
  split
  · exact (failsMalformed_values _).bind fun _ => (failsMalformed_column _ _).bind fun _ => .ok _
  · exact (failsMalformed_values _).bind fun _ => (hflag _).bind fun _ =>
      (failsMalformed_column _ _).bind fun _ => .ok _
  · exact .error _

lemma failsMalformed_comparison (op : String) (token : CompareOp) (js : List Json) :
    FailsMalformed (Condition.comparisonOfJson op token js) := by
  unfold Condition.comparisonOfJson
  split
  · exact (failsMalformed_column _ _).bind fun _ => (failsMalformed_value _).bind fun _ => .ok _
  · exact .error _

lemma failsMalformed_leaf (op : String) (js : List Json) :
    FailsMalformed (Condition.leafOfJson op js) := by
  unfold Condition.leafOfJson
  split
  · exact failsMalformed_between _ _ _
  · exact failsMalformed_between _ _ _
  · exact failsMalformed_within _ _ _
  · exact failsMalformed_within _ _ _
  · exact .error _
  · exact .error _
  · split
    · exact failsMalformed_like _ _ _
    · exact failsMalformed_comparison _ _ _
    · exact .error _

lemma failsMalformed_hash (members : List (String × Json)) :
    FailsMalformed (Condition.hashOfJson members) :=
  (FailsMalformed.mapM (fun _ => (failsMalformed_operand _).map _) members).map _

mutual

/-- A document that is no condition is malformed. -/
lemma failsMalformed_ofJson : ∀ j : Json, FailsMalformed (Condition.ofJson j)
  | .array (.string op :: js) => by
    unfold Condition.ofJson
    split
    · exact (failsMalformed_ofList js).map _
    · exact (failsMalformed_ofList js).map _
    · split
      · exact (failsMalformed_ofJson _).map _
      · exact .error _
    · exact failsMalformed_leaf _ _
  | .object members => by
    unfold Condition.ofJson
    exact failsMalformed_hash members
  | .string _ | .array [] => by
    unfold Condition.ofJson
    exact .ok _
  | .null | .bool _ | .number _ | .array (.null :: _) | .array (.bool _ :: _)
  | .array (.number _ :: _) | .array (.array _ :: _) | .array (.object _ :: _) => by
    unfold Condition.ofJson
    exact .error _

lemma failsMalformed_ofList : ∀ js : List Json, FailsMalformed (Condition.listOfJson js)
  | [] => by
    unfold Condition.listOfJson
    exact .ok _
  | j :: js => by
    unfold Condition.listOfJson
    exact (failsMalformed_ofJson j).bind fun _ => (failsMalformed_ofList js).bind fun _ => .ok _

end

end Grammar

end SqlCompose
