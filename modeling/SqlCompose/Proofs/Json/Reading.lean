import Mathlib
import SqlCompose.Proofs.Json.Grammar
import SqlCompose.Proofs.Schema.Integer

/-!
# Reading conditions by the grammar

Each reader accepts exactly what its rule accepts and gives the same result. A document is read as a
condition exactly if the rules derive that condition for it.
-/

namespace SqlCompose

/-! ### Outcomes -/

section

variable {α β : Type} {x : Outcome α} {f : α → Outcome β}

lemma bind_eq_ok_iff {b : β} : x >>= f = .ok b ↔ ∃ a, x = .ok a ∧ f a = .ok b := by
  cases x with
  | error e => exact ⟨nofun, nofun⟩
  | ok a => exact ⟨fun h => ⟨a, rfl, h⟩, fun ⟨_, ha, h⟩ => Except.ok.inj ha ▸ h⟩

lemma map_eq_ok_iff {g : α → β} {b : β} : x.map g = .ok b ↔ ∃ a, x = .ok a ∧ g a = b := by
  cases x with
  | error e => exact ⟨nofun, nofun⟩
  | ok a =>
    exact ⟨fun h => ⟨a, rfl, Except.ok.inj h⟩, fun ⟨_, ha, h⟩ => Except.ok.inj ha ▸ congrArg _ h⟩

/-- A list is read if each of its members is. -/
lemma mapM_eq_ok_iff {xs : List α} {ys : List β} :
    xs.mapM f = .ok ys ↔ List.Forall₂ (fun x y => f x = .ok y) xs ys := by
  induction xs generalizing ys with
  | nil =>
    rw [List.mapM_nil, List.forall₂_nil_left_iff]
    exact ⟨fun h => (Except.ok.inj h).symm, fun h => h ▸ rfl⟩
  | cons x xs ih =>
    rw [List.mapM_cons, bind_eq_ok_iff, List.forall₂_cons_left_iff]
    refine exists_congr fun y => ?_
    rw [bind_eq_ok_iff, ← exists_and_left]
    refine exists_congr fun ys' => and_congr_right fun _ => and_congr ih ?_
    exact ⟨fun h => (Except.ok.inj h).symm, fun h => h ▸ rfl⟩

end

namespace Grammar

/-! ### Operands -/

variable {op : String} {j : Json} {js : List Json} {v : Value} {vs : List Value} {c : Condition}

/-- A scalar is read as the value it stands for, and nothing else is read as one. -/
lemma ofJson_eq_ok_iff_scalar : Value.ofJson j = .ok v ↔ Scalar j v := by
  constructor
  · intro h
    cases j with
    | null => cases h; exact .null
    | bool b => cases h; exact .bool b
    | number n =>
      obtain rfl := Except.ok.inj h
      cases n with
      | integer i =>
        dsimp only [Value.ofJsonNumber]
        cases hi : int64? i with
        | some n => exact int64?_eq_some_iff.mp hi ▸ .int n
        | none =>
          refine .wide fun n hn => ?_
          rw [int64?_eq_some_iff.mpr hn] at hi
          cases hi
      | double x => exact .float x
    | string s => cases h; exact .text s
    | array | object => cases h
  · intro h
    cases h with
    | int n =>
      have hn : int64? n.toInt = some n := int64?_eq_some_iff.mpr rfl
      rw [Value.ofJson, Value.ofJsonNumber, hn]
    | @wide i hi =>
      have hnone : int64? i = none := by
        rw [Option.eq_none_iff_forall_ne_some]
        exact fun n hn => hi n (int64?_eq_some_iff.mp hn)
      rw [Value.ofJson, Value.ofJsonNumber, hnone]
    | _ => rfl

lemma listOfJson_eq_ok_iff : Value.listOfJson js = .ok vs ↔ Row (.array js) vs := by
  have hscalar : (fun j v => Value.ofJson j = .ok v) = Scalar := by
    funext j v
    exact propext ofJson_eq_ok_iff_scalar
  rw [Value.listOfJson, mapM_eq_ok_iff, hscalar]
  exact ⟨.mk, fun | .mk h => h⟩

lemma rowOfJson_eq_ok_iff : Condition.rowOfJson op j = .ok vs ↔ Row j vs := by
  unfold Condition.rowOfJson
  split
  · exact listOfJson_eq_ok_iff
  · rename_i hother
    constructor
    · intro h
      cases h
    · rintro ⟨⟩
      exact absurd rfl (hother _)

lemma valuesOfJson_eq_ok_iff : Condition.valuesOfJson j = .ok vs ↔ Scalars j vs := by
  unfold Condition.valuesOfJson
  split
  · rw [listOfJson_eq_ok_iff]
    constructor
    · exact .many
    · rintro (⟨⟨⟩⟩ | h)
      exact h
  · rename_i hscalar
    rw [map_eq_ok_iff]
    constructor
    · rintro ⟨v, hv, rfl⟩
      exact .one (ofJson_eq_ok_iff_scalar.mp hv)
    · rintro (hv | ⟨⟨⟩⟩)
      · exact ⟨_, ofJson_eq_ok_iff_scalar.mpr hv, rfl⟩
      · exact absurd rfl (hscalar _)

lemma operandOfJson_eq_ok_iff {operand : Operand} :
    Condition.operandOfJson j = .ok operand ↔ Comparand j operand := by
  unfold Condition.operandOfJson
  split
  · rw [map_eq_ok_iff]
    constructor
    · rintro ⟨vs, hvs, rfl⟩
      exact .list (listOfJson_eq_ok_iff.mp hvs)
    · rintro (⟨⟨⟩⟩ | hvs)
      exact ⟨_, listOfJson_eq_ok_iff.mpr hvs, rfl⟩
  · rename_i hscalar
    rw [map_eq_ok_iff]
    constructor
    · rintro ⟨v, hv, rfl⟩
      exact .value (ofJson_eq_ok_iff_scalar.mp hv)
    · rintro (hv | ⟨⟨⟩⟩)
      · exact ⟨_, ofJson_eq_ok_iff_scalar.mpr hv, rfl⟩
      · exact absurd rfl (hscalar _)

lemma columnOfJson_eq_ok_iff {name : String} :
    Condition.columnOfJson op j = .ok name ↔ Column j name := by
  cases j with
  | string s =>
    dsimp only [Condition.columnOfJson]
    by_cases hs : s = ""
    · subst hs
      exact ⟨nofun, fun | .mk h => absurd rfl h⟩
    · rw [if_neg (by simpa using hs)]
      exact ⟨fun h => Except.ok.inj h ▸ .mk hs, fun | .mk _ => rfl⟩
  | _ => exact ⟨nofun, nofun⟩

/-! ### Operators without conditions -/

/-- A range is read from a column and two bounds only. -/
lemma betweenOfJson_eq_ok_iff {negated : Bool} :
    Condition.betweenOfJson op negated js = .ok c ↔ Range negated js c := by
  unfold Condition.betweenOfJson
  split
  · simp only [bind_eq_ok_iff, columnOfJson_eq_ok_iff, ofJson_eq_ok_iff_scalar]
    constructor
    · rintro ⟨name, hcolumn, v, hlow, w, hhigh, hc⟩
      exact Except.ok.inj hc ▸ .mk hcolumn hlow hhigh
    · rintro ⟨hcolumn, hlow, hhigh⟩
      exact ⟨_, hcolumn, _, hlow, _, hhigh, rfl⟩
  · rename_i hother
    exact ⟨nofun, fun | .mk .. => absurd rfl (hother _ _ _)⟩

/-- A membership is read from a column, or a list of columns, and what it is in. -/
lemma withinOfJson_eq_ok_iff {negated : Bool} :
    Condition.withinOfJson op negated js = .ok c ↔ Within negated js c := by
  unfold Condition.withinOfJson
  split
  · simp only [bind_eq_ok_iff, mapM_eq_ok_iff, columnOfJson_eq_ok_iff]
    constructor
    · rintro ⟨names, hcolumns, hrows⟩
      split at hrows
      · simp only [bind_eq_ok_iff, mapM_eq_ok_iff, rowOfJson_eq_ok_iff] at hrows
        obtain ⟨vss, hrows, hc⟩ := hrows
        exact Except.ok.inj hc ▸ .rows hcolumns hrows
      · cases hrows
    · rintro (⟨⟨⟩, -⟩ | ⟨hcolumns, hrows⟩)
      refine ⟨_, hcolumns, ?_⟩
      simp only [bind_eq_ok_iff, mapM_eq_ok_iff, rowOfJson_eq_ok_iff]
      exact ⟨_, hrows, rfl⟩
  · rename_i hcolumn
    simp only [bind_eq_ok_iff, columnOfJson_eq_ok_iff, valuesOfJson_eq_ok_iff]
    constructor
    · rintro ⟨vs, hvalues, name, hcolumn, hc⟩
      exact Except.ok.inj hc ▸ .list hcolumn hvalues
    · rintro (⟨hcolumn, hvalues⟩ | _)
      · exact ⟨_, hvalues, _, hcolumn, rfl⟩
      · exact absurd rfl (hcolumn _)
  · rename_i hrows hlist
    refine ⟨nofun, fun h => ?_⟩
    cases h with
    | list => exact absurd rfl (hlist _ _)
    | rows => exact absurd rfl (hrows _ _)

lemma flagOfJson_eq_ok_iff {flag : Bool} :
    Condition.flagOfJson op j = .ok flag ↔ j = .bool flag := by
  unfold Condition.flagOfJson
  split
  · rw [Except.ok.injEq, Json.bool.injEq]
  · rename_i hother
    exact ⟨nofun, fun h => absurd h (hother _)⟩

/-- A comparison with patterns is read with or without a flag behind it. -/
lemma likeOfJson_eq_ok_iff {family : LikeOp} :
    Condition.likeOfJson op family js = .ok c ↔ Likeness family js c := by
  unfold Condition.likeOfJson
  split
  · simp only [bind_eq_ok_iff, columnOfJson_eq_ok_iff, valuesOfJson_eq_ok_iff]
    constructor
    · rintro ⟨vs, hvalues, name, hcolumn, hc⟩
      exact Except.ok.inj hc ▸ .plain hcolumn hvalues
    · rintro ⟨hcolumn, hvalues⟩
      exact ⟨_, hvalues, _, hcolumn, rfl⟩
  · simp only [bind_eq_ok_iff, columnOfJson_eq_ok_iff, valuesOfJson_eq_ok_iff,
      flagOfJson_eq_ok_iff]
    constructor
    · rintro ⟨vs, hvalues, flag, rfl, name, hcolumn, hc⟩
      exact Except.ok.inj hc ▸ .flagged hcolumn hvalues flag
    · rintro (_ | ⟨hcolumn, hvalues, flag⟩)
      exact ⟨_, hvalues, flag, rfl, _, hcolumn, rfl⟩
  · rename_i hplain hflagged
    refine ⟨nofun, fun h => ?_⟩
    cases h with
    | plain => exact absurd rfl (hplain _ _)
    | flagged => exact absurd rfl (hflagged _ _ _)

/-- A comparison is read from a column and one value. -/
lemma comparisonOfJson_eq_ok_iff {token : CompareOp} :
    Condition.comparisonOfJson op token js = .ok c ↔ Comparison token js c := by
  unfold Condition.comparisonOfJson
  split
  · simp only [bind_eq_ok_iff, columnOfJson_eq_ok_iff, ofJson_eq_ok_iff_scalar]
    constructor
    · rintro ⟨name, hcolumn, v, hvalue, hc⟩
      exact Except.ok.inj hc ▸ .mk hcolumn hvalue
    · rintro ⟨hcolumn, hvalue⟩
      exact ⟨_, hcolumn, _, hvalue, rfl⟩
  · rename_i hother
    exact ⟨nofun, fun | .mk .. => absurd rfl (hother _ _)⟩

/-- An operator without conditions inside is read by its own form. -/
lemma leafOfJson_eq_ok_iff : Condition.leafOfJson op js = .ok c ↔ Leaf op js c := by
  constructor
  · intro h
    unfold Condition.leafOfJson at h
    split at h
    · exact .between (betweenOfJson_eq_ok_iff.mp h)
    · exact .notBetween (betweenOfJson_eq_ok_iff.mp h)
    · exact .within (withinOfJson_eq_ok_iff.mp h)
    · exact .notWithin (withinOfJson_eq_ok_iff.mp h)
    · cases h
    · cases h
    · split at h
      · rename_i hfamily
        obtain rfl := LikeOp.ofKeyword?_eq_some_iff.mp hfamily
        exact .like (likeOfJson_eq_ok_iff.mp h)
      · rename_i htoken
        exact .compare (CompareOp.ofToken?_eq_some_iff.mp htoken) (comparisonOfJson_eq_ok_iff.mp h)
      · cases h
  · intro h
    cases h with
    | between h | notBetween h => exact betweenOfJson_eq_ok_iff.mpr h
    | within h | notWithin h => exact withinOfJson_eq_ok_iff.mpr h
    | @like family _ _ h =>
      cases family <;> exact likeOfJson_eq_ok_iff.mpr h
    | @compare token _ _ _ htoken h =>
      cases token <;> fin_cases htoken <;> exact comparisonOfJson_eq_ok_iff.mpr h

/-! ### Conditions -/

/-- An object is read as the conjunction of its members. -/
lemma hashOfJson_eq_ok_iff {members : List (String × Json)} :
    Condition.hashOfJson members = .ok c ↔ Derives (.object members) c := by
  have hmember (m : String × Json) (p : String × Operand) :
      (Condition.operandOfJson m.2).map (m.1, ·) = .ok p ↔ m.1 = p.1 ∧ Comparand m.2 p.2 := by
    rw [map_eq_ok_iff]
    constructor
    · rintro ⟨operand, hoperand, rfl⟩
      exact ⟨rfl, operandOfJson_eq_ok_iff.mp hoperand⟩
    · rintro ⟨hname, hoperand⟩
      exact ⟨p.2, operandOfJson_eq_ok_iff.mpr hoperand, Prod.ext hname rfl⟩
  rw [Condition.hashOfJson, map_eq_ok_iff]
  simp only [mapM_eq_ok_iff, hmember]
  constructor
  · rintro ⟨pairs, hpairs, rfl⟩
    exact .hash hpairs
  · intro h
    cases h with
    | hash hpairs => exact ⟨_, hpairs, rfl⟩

lemma Leaf.isTrimmed {keyword : String} (h : Leaf keyword js c) : isTrimmed keyword = true := by
  cases h with
  | between | notBetween | within | notWithin => decide
  | @like family => cases family <;> decide
  | @compare op _ _ _ htoken => cases op <;> fin_cases htoken <;> decide

lemma Leaf.not_group {keyword : String} (h : Leaf keyword js c) :
    keyword ∉ ["and", "or", "not"] := by
  cases h with
  | between | notBetween | within | notWithin => decide
  | @like family => cases family <;> decide
  | @compare op _ _ _ htoken => cases op <;> fin_cases htoken <;> decide

/-- The rules for an array that starts with an operator, by the keyword that it is looked up as. -/
lemma derives_operator_iff {keyword : String} (hop : Condition.normalizeOperator op = keyword) :
    Derives (.array (.string op :: js)) c ↔
      (keyword = "and" ∧ ∃ cs, List.Forall₂ Derives js cs ∧ .and cs = c) ∨
      (keyword = "or" ∧ ∃ cs, List.Forall₂ Derives js cs ∧ .or cs = c) ∨
      (keyword = "not" ∧ ∃ j c', js = [j] ∧ Derives j c' ∧ .not c' = c) ∨ Leaf keyword js c := by
  subst hop
  constructor
  · intro h
    cases h with
    | and hop h => exact .inl ⟨(spells_iff (by decide)).mp hop, _, h, rfl⟩
    | or hop h => exact .inr (.inl ⟨(spells_iff (by decide)).mp hop, _, h, rfl⟩)
    | not hop h => exact .inr (.inr (.inl ⟨(spells_iff (by decide)).mp hop, _, _, rfl, h, rfl⟩))
    | leaf hop h => exact .inr (.inr (.inr ((spells_iff h.isTrimmed).mp hop ▸ h)))
  · rintro (⟨hop, cs, h, rfl⟩ | ⟨hop, cs, h, rfl⟩ | ⟨hop, j, c', rfl, h, rfl⟩ | h)
    · exact .and ((spells_iff (by decide)).mpr hop) h
    · exact .or ((spells_iff (by decide)).mpr hop) h
    · exact .not ((spells_iff (by decide)).mpr hop) h
    · exact .leaf ((spells_iff h.isTrimmed).mpr rfl) h

lemma listOfJson_cons_eq_ok_iff {cs : List Condition} :
    Condition.listOfJson (j :: js) = .ok cs ↔
      ∃ c, Condition.ofJson j = .ok c ∧
        ∃ cs', Condition.listOfJson js = .ok cs' ∧ c :: cs' = cs := by
  conv_lhs => unfold Condition.listOfJson
  simp only [bind_eq_ok_iff]
  exact exists_congr fun c => and_congr_right fun _ => exists_congr fun cs' => and_congr_right
    fun _ => ⟨Except.ok.inj, congrArg Except.ok⟩

/-- An array that starts with an operator is read by the rules if its operands are. -/
lemma ofJson_operator_eq_ok_iff
    (hoperands : ∀ cs, Condition.listOfJson js = .ok cs ↔ List.Forall₂ Derives js cs) :
    Condition.ofJson (.array (.string op :: js)) = .ok c ↔
      Derives (.array (.string op :: js)) c := by
  have hgroup {keyword : String} (hkeyword : keyword ∈ ["and", "or", "not"]) :
      Leaf keyword js c ↔ False := iff_false_intro fun h => h.not_group hkeyword
  unfold Condition.ofJson
  split
  · rename_i hop
    rw [derives_operator_iff hop, map_eq_ok_iff]
    simp [hgroup, hoperands]
  · rename_i hop
    rw [derives_operator_iff hop, map_eq_ok_iff]
    simp [hgroup, hoperands]
  · rename_i hop
    rw [derives_operator_iff hop]
    split
    · rename_i item
      have hitem (c' : Condition) : Condition.ofJson item = .ok c' ↔ Derives item c' := by
        constructor
        · intro h
          cases (hoperands [c']).mp (listOfJson_cons_eq_ok_iff.mpr ⟨c', h, [], rfl, rfl⟩) with
          | cons h _ => exact h
        · intro h
          obtain ⟨_, hc, _, -, hcs⟩ :=
            listOfJson_cons_eq_ok_iff.mp ((hoperands [c']).mpr (.cons h .nil))
          exact (List.cons.inj hcs).1 ▸ hc
      rw [map_eq_ok_iff]
      simp [hgroup, hitem]
    · rename_i hother
      have hlength (j : Json) : js ≠ [j] := fun h => hother j h
      simp [hgroup, hlength]
  · rename_i hand hor hnot
    rw [leafOfJson_eq_ok_iff, derives_operator_iff rfl, iff_false_intro hand, iff_false_intro hor,
      iff_false_intro hnot]
    simp

mutual

/-- A document is read as exactly the conditions that it stands for. -/
lemma ofJson_eq_ok_iff_derives :
    ∀ (j : Json) (c : Condition), Condition.ofJson j = .ok c ↔ Derives j c
  | .array (.string _ :: js), _ =>
    ofJson_operator_eq_ok_iff fun cs => listOfJson_eq_ok_iff_derives js cs
  | .object _, _ => by
    unfold Condition.ofJson
    exact hashOfJson_eq_ok_iff
  | .string sql, _ => by
    unfold Condition.ofJson
    constructor
    · intro h
      exact Except.ok.inj h ▸ .raw sql
    · rintro ⟨⟩
      rfl
  | .array [], c => by
    unfold Condition.ofJson
    constructor
    · intro h
      exact Except.ok.inj h ▸ .nothing
    · rintro ⟨⟩
      rfl
  | .null, _ | .bool _, _ | .number _, _ | .array (.null :: _), _ | .array (.bool _ :: _), _
  | .array (.number _ :: _), _ | .array (.array _ :: _), _ | .array (.object _ :: _), _ => by
    unfold Condition.ofJson
    constructor
    · intro h
      cases h
    · rintro ⟨⟩

lemma listOfJson_eq_ok_iff_derives : ∀ (js : List Json) (cs : List Condition),
    Condition.listOfJson js = .ok cs ↔ List.Forall₂ Derives js cs
  | [], cs => by
    unfold Condition.listOfJson
    rw [List.forall₂_nil_left_iff]
    exact ⟨fun h => (Except.ok.inj h).symm, fun h => h ▸ rfl⟩
  | j :: js, cs => by
    rw [listOfJson_cons_eq_ok_iff, List.forall₂_cons_left_iff]
    simp only [ofJson_eq_ok_iff_derives j, listOfJson_eq_ok_iff_derives js]
    simp [eq_comm]

end

end Grammar

end SqlCompose
