import Mathlib
import SqlCompose.Proofs.Reading.Leaf

/-!
# Reading lookups

Each lookup of each dialect is a predicate on its field, whatever stands for the value that it looks
for: a comparison, a pattern, a range, a membership, or a comparison of a part of a date.
-/

namespace SqlCompose.Fragment

variable {d : Dialect} {q : String}

/-! ### Functions of an operand -/

/-- A function of one operand compared with the same function of a value. -/
lemma isPredicate_lower {op t : String} (hq : d.IsOperand q) (hop : op = " = " ∨ op = " LIKE ")
    (hint : String) (v : Value) (ht : t = "" ∨ d.checkPlain t = true ∧ startsApart t = true) :
    IsPredicate d [.text ("LOWER(" ++ q ++ (")" ++ op ++ "LOWER(")), .slot hint v,
      .text (")" ++ t)] := by
  rintro b rfl
  have hslot := b.isPlain_bind hint v
  have hcall : b.dialect.IsOperand ("LOWER" ++ ("(" ++ q ++ ")")) :=
    Dialect.isOperand_call (by cases b.dialect <;> rfl) hq.isPlain.isSome
  have hop' : b.dialect.IsPlain (op ++ "LOWER") ∧ startsApart (op ++ "LOWER") = true := by
    rcases hop with rfl | rfl
    · exact ⟨Dialect.isPlain_of_check (by cases b.dialect <;> rfl), by decide⟩
    · exact ⟨Dialect.isPlain_of_check (by cases b.dialect <;> rfl), by decide⟩
  have hargument : b.dialect.IsPlain ("(" ++ (b.bind hint v).1 ++ ")") :=
    Dialect.isPlain_parens hslot.isSome
  have hopen : startsApart ("(" ++ (b.bind hint v).1 ++ ")") = true := by
    rw [String.append_assoc]
    exact startsApart_append (by decide) (by decide)
  have hright : b.dialect.IsPlain (op ++ "LOWER" ++ ("(" ++ (b.bind hint v).1 ++ ")")) :=
    hop'.1.append hargument (.inr hopen)
  have hne : op ++ "LOWER" ≠ "" := by rcases hop with rfl | rfl <;> decide
  have htail : b.dialect.IsPlain (op ++ "LOWER" ++ ("(" ++ (b.bind hint v).1 ++ ")") ++ t) := by
    rcases ht with rfl | ⟨ht, hapart⟩
    · rwa [String.append_empty]
    · exact hright.append (Dialect.isPlain_of_check ht) (.inr hapart)
  obtain ⟨is, p, his, hreads⟩ := reads_operand hcall htail
    (by rw [String.append_assoc]; exact startsApart_append hop'.2 hne)
  refine ⟨p, is, ?_, hreads⟩
  rw [← his]
  refine congrArg _ (String.toList_injective ?_)
  simp

/-- A function of an operand, with other texts around the operand. -/
lemma isOperand_around {u : String} (hq : d.IsOperand q) (name s t : String)
    (hname : d.checkOperand name = true) (hu : u = name ++ ("(" ++ (s ++ q ++ t) ++ ")"))
    (hs : (d.items? s).isSome = true) (hend : endsApart s = true)
    (ht : (d.items? t).isSome = true) (hstart : startsApart t = true) : d.IsOperand u := by
  obtain ⟨is, his⟩ := Option.isSome_iff_exists.mp hs
  obtain ⟨js, hjs⟩ := Option.isSome_iff_exists.mp hq.isPlain.isSome
  obtain ⟨ks, hks⟩ := Option.isSome_iff_exists.mp ht
  rw [hu]
  refine Dialect.isOperand_call hname ?_
  rw [Dialect.items?_append (Dialect.items?_append his hjs (.inl hend)) hks (.inr hstart)]
  rfl

/-- A part of a date is an operand, in the form of any dialect. -/
lemma isOperand_extraction (hq : d.IsOperand q) (part : DatePart) :
    d.IsOperand (extraction d part q) := by
  have hextract (t : String) (h : (d.items? (part.sqlName ++ " FROM ")).isSome = true)
      (ht : (d.items? t).isSome = true) (hstart : startsApart t = true) :
      d.IsOperand ("EXTRACT(" ++ part.sqlName ++ " FROM " ++ q ++ (t ++ ")")) :=
    isOperand_around hq "EXTRACT" (part.sqlName ++ " FROM ") t (by cases d <;> rfl)
      (String.toList_injective (by simp)) h (endsApart_append (by decide) (by decide)) ht hstart
  cases d with
  | sqlite =>
    have hcall (code : String) (h : (Dialect.sqlite.items? ("'" ++ code ++ "', ")).isSome = true) :
        Dialect.sqlite.IsOperand ("strftime('" ++ code ++ "', " ++ q ++ ")") :=
      isOperand_around hq "strftime" ("'" ++ code ++ "', ") "" rfl
        (String.toList_injective (by simp)) h (endsApart_append (by decide) (by decide)) rfl rfl
    cases part <;> exact hcall _ rfl
  | pgsql => exact hextract "::timestamp" (by cases part <;> rfl) rfl rfl
  | mssql =>
    have hcall (name : String) (h : (Dialect.mssql.items? (name ++ ", ")).isSome = true) :
        Dialect.mssql.IsOperand ("DATEPART(" ++ name ++ ", " ++ q ++ ")") :=
      isOperand_around hq "DATEPART" (name ++ ", ") "" rfl
        (String.toList_injective (by simp)) h (endsApart_append (by decide) (by decide)) rfl rfl
    cases part <;> exact hcall _ rfl
  | mysql | cubrid =>
    have hday (d : Dialect) (hq : d.IsOperand q) (hname : d.checkOperand "DAYOFWEEK" = true) :
        d.IsOperand ("DAYOFWEEK(" ++ q ++ ")") :=
      isOperand_around hq "DAYOFWEEK" "" "" hname (String.toList_injective (by simp)) rfl rfl rfl
        rfl
    cases part with
    | weekDay => exact hday _ hq rfl
    | _ => exact hextract "" rfl rfl rfl

/-! ### Kinds of lookups -/

/-- A lookup of a single value is a predicate if it is one for each value that it takes. -/
lemma isPredicate_ofScalar {lookup : Lookup} {operand : Operand} {predicate : Value → Fragment}
    (h : ∀ v, error? (predicate v) = none → IsPredicate d (predicate v))
    (herror : error? (ofScalar lookup operand predicate) = none) :
    IsPredicate d (ofScalar lookup operand predicate) := by
  cases operand with
  | value v => exact h v herror
  | list | query | expr => simp [ofScalar, refuseLookup] at herror

lemma isPredicate_exactly (hq : d.IsOperand q) (v : Value) : IsPredicate d (exactly q v) := by
  unfold exactly
  split
  · exact isPredicate_null hq false
  · exact isPredicate_slot hq (by cases d <;> rfl) (by decide) (by decide) _ _

lemma isPredicate_exactlyIgnoringCase (hq : d.IsOperand q) (v : Value) :
    IsPredicate d (exactlyIgnoringCase q v) := by
  unfold exactlyIgnoringCase
  split
  · exact isPredicate_null hq false
  · exact isPredicate_lower (t := "") hq (.inl rfl) q v (.inl rfl)

lemma isPredicate_likePattern (hq : d.IsOperand q) (ignoreCase : Bool) (v : Value) :
    IsPredicate d (likePattern d q ignoreCase v) := by
  have hlike : IsPredicate d [.text (q ++ " LIKE "), .slot q v, .text d.likeEscape] :=
    isPredicate_slot_text hq (by cases d <;> rfl) (by decide) (by decide) _ _ (likeEscape_apart d)
  cases ignoreCase with
  | false => cases d <;> exact hlike
  | true =>
    cases d with
    | mysql | mssql | cubrid => exact hlike
    | pgsql => exact isPredicate_slot hq rfl (by decide) (by decide) _ _
    | sqlite => exact isPredicate_lower hq (.inr rfl) q v (likeEscape_apart .sqlite)

lemma isPredicate_ofPattern {lookup : Lookup} {pattern : Pattern} {ignoreCase : Bool}
    {operand : Operand} (hq : d.IsOperand q)
    (herror : error? (ofPattern d lookup q pattern ignoreCase operand) = none) :
    IsPredicate d (ofPattern d lookup q pattern ignoreCase operand) := by
  refine isPredicate_ofScalar (fun v hv => ?_) herror
  split_ifs at hv ⊢
  · simp [refuseLookup] at hv
  · exact isPredicate_likePattern hq ignoreCase _

lemma isPredicate_comparison (hq : d.IsOperand q) (op : CompareOp) (v : Value) :
    IsPredicate d (comparison q op v) := by
  have hassoc : q ++ " " ++ op.token ++ " " = q ++ (" " ++ op.token ++ " ") := by
    simp only [String.append_assoc]
  rw [comparison, hassoc]
  exact isPredicate_slot hq (by cases d <;> cases op <;> rfl) (by cases op <;> decide)
    (by cases op <;> decide) _ _

lemma isPredicate_amongValues (hq : d.IsOperand q) (values : List Value) :
    IsPredicate d (amongValues q values) := by
  unfold amongValues
  split
  · have hnone : IsPredicate d (ofEmptyList false) := isPredicate_ofEmptyList rfl
    exact hnone
  · exact isPredicate_bracket hq (by cases d <;> rfl) (by decide) (by decide)
      (isClosed_slots q values) (by simp)

lemma isPredicate_nullCheck (hq : d.IsOperand q) {v : Value}
    (herror : error? (nullCheck q v) = none) : IsPredicate d (nullCheck q v) := by
  unfold nullCheck at herror ⊢
  match h : v.asBool? with
  | some true => exact isPredicate_null hq false
  | some false => exact isPredicate_null hq true
  | none => simp [h, refuseLookup] at herror

lemma isPredicate_regex (hq : d.IsOperand q) (ignoreCase : Bool) {v : Value}
    (herror : error? (regex d q ignoreCase v) = none) :
    IsPredicate d (regex d q ignoreCase v) := by
  cases d with
  | mysql | sqlite | cubrid => exact isPredicate_slot hq rfl (by decide) (by decide) _ _
  | mssql => simp [regex] at herror
  | pgsql =>
    cases ignoreCase with
    | true => exact isPredicate_slot hq (s := " ~* ") rfl (by decide) (by decide) _ _
    | false => exact isPredicate_slot hq (s := " ~ ") rfl (by decide) (by decide) _ _

lemma isPredicate_datePart (hq : d.IsOperand q) (part : DatePart) {v : Value}
    (herror : error? (datePart d part q v) = none) : IsPredicate d (datePart d part q v) := by
  unfold datePart at herror ⊢
  match h : v.asInt? with
  | none => simp [h, refuseLookup] at herror
  | some n =>
    rw [h] at herror
    dsimp only at herror ⊢
    by_cases hrange : part = .weekDay ∧ ¬(1 ≤ n ∧ n ≤ 7)
    · rw [if_pos hrange] at herror
      simp [refuseLookup] at herror
    · rw [if_neg hrange]
      exact isPredicate_slot (s := " = ") (isOperand_extraction hq part) (by cases d <;> rfl)
        (by decide) (by decide) _ _

/-! ### Every lookup -/

/-- A lookup that is written is a predicate. -/
theorem isPredicate_lookup (hq : d.IsOperand q) {lookup : Lookup} {operand : Operand}
    (herror : error? (lookup.fragment d q operand) = none) :
    IsPredicate d (lookup.fragment d q operand) := by
  cases lookup with
  | exact => exact isPredicate_ofScalar (fun v _ => isPredicate_exactly hq v) herror
  | iexact => exact isPredicate_ofScalar (fun v _ => isPredicate_exactlyIgnoringCase hq v) herror
  | contains | icontains | startsWith | istartsWith | endsWith | iendsWith =>
    exact isPredicate_ofPattern hq herror
  | gt | gte | lt | lte =>
    exact isPredicate_ofScalar (fun v _ => isPredicate_comparison hq _ v) herror
  | range =>
    match operand with
    | .list [low, high] => exact isPredicate_between hq q low high false
    | .list [] | .list [_] | .list (_ :: _ :: _ :: _) | .value _ | .query _ | .expr _ =>
      simp [Lookup.fragment, refuseLookup] at herror
  | within =>
    cases operand with
    | list values => exact isPredicate_amongValues hq values
    | value v => exact isPredicate_amongValues hq [v]
    | query | expr => simp [Lookup.fragment, refuseLookup] at herror
  | isNull => exact isPredicate_ofScalar (fun v hv => isPredicate_nullCheck hq hv) herror
  | regex | iregex => exact isPredicate_ofScalar (fun v hv => isPredicate_regex hq _ hv) herror
  | part p => exact isPredicate_ofScalar (fun v hv => isPredicate_datePart hq p hv) herror
  | search => simp [Lookup.fragment] at herror

end SqlCompose.Fragment
