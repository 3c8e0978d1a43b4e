import Mathlib
import SqlCompose.Proofs.Json.Literal
import SqlCompose.Proofs.Number.Numeral
import SqlCompose.Proofs.Number.Shortest

/-!
# Integers in conditions

What is bound for the integers of a condition's document. Integers of 64 bits with a sign are bound
as they are, alone or in a pattern. From `2 ^ 63` on they are read as floats: a value is kept if it
is a multiple of 2048, and a pattern only if the shortest decimal of the float is the integer, which
then is a multiple of a hundred.
-/

namespace SqlCompose

open Fragment

namespace Grammar

variable {literal : Literal} {v : Value} {i : ℤ} {d : Dialect}

/-! ### What is bound -/

/-- What a literal is bound to in a dialect. -/
def Literal.Binds (d : Dialect) (literal : Literal) (w : Value) : Prop :=
  ∃ v, literal.Means v ∧ w = Binding.boundValue d v

lemma isNull_boundValue (v : Value) : (Binding.boundValue d v).isNull = v.isNull := by
  cases v with
  | bool b => cases d <;> rfl
  | _ => rfl

lemma nonNulls_map_boundValue (vs : List Value) :
    nonNulls (vs.map (Binding.boundValue d)) = (nonNulls vs).map (Binding.boundValue d) := by
  rw [nonNulls, List.filter_map]
  congr 1
  exact List.filter_congr fun v _ => congrArg _ (isNull_boundValue v)

/-- The literals that are no nulls are bound in order, and nothing else but nulls is. -/
lemma forall₂_binds {schema : Option SchemaRegistry} {j : Json} {c : Condition} {out : Built}
    (hj : Condition.ofJson j = .ok c)
    (hout : (⟨d, schema, false⟩ : Builder).condition c = .ok out) :
    List.Forall₂ (Literal.Binds d) ((literals j).filter (!·.isNull))
      (nonNulls (out.allParams.toList.map Prod.snd)) := by
  have hderives := (ofJson_eq_ok_iff_derives j c).mp hj
  let b : Builder := ⟨d, schema, false⟩
  let s : Draft := .condition c
  have herror : error? (c.fragment d) = none :=
    Builder.error?_eq_none_of_write (b := b) (s := s) hout
  have hvalues : out.allParams.toList.map Prod.snd =
      (values (c.fragment d)).map (Binding.boundValue d) := by
    rw [Builder.toList_allParams_of_forall (b := b) (s := s) rfl hout
      (maps_of_derives j c hderives), ← Binding.map_snd_placed (b := b.startFor s) herror,
      List.map_map, List.map_map]
    rfl
  obtain ⟨vs, hvs, hplaced⟩ := places_fragment d j c hderives herror
  rw [hvalues, nonNulls_map_boundValue, hplaced, List.forall₂_map_right_iff]
  have hmeans : List.Forall₂ Literal.Means ((literals j).filter (!·.isNull)) (nonNulls vs) :=
    List.rel_filter (fun _ _ h => by simp [h.isNull_eq]) hvs
  exact hmeans.imp fun _ v h => ⟨v, h, rfl⟩

/-! ### Integers -/

/-- What is bound for a literal holds an integer: it denotes it, or it is the pattern that looks for
it as it is written. -/
def Literal.Holds : Literal → Value → ℤ → Prop
  | .value _, v, i => v.Denotes i
  | .pattern _, v, i => v = .text ("%" ++ toString i ++ "%")

/-- Rounding an integer to a float loses nothing: the float denotes it, or is written as it. -/
def Literal.Survives : Literal → ℤ → Prop
  | .value _, i => 2048 ∣ i
  | .pattern _, i => (Double.ofInt i).plain = toString i

/-- From `2 ^ 63` on, the integers that survive are multiples of this. -/
def Literal.step : Literal → ℤ
  | .value _ => 2048
  | .pattern _ => 100

/-- From `2 ^ 63` on, an integer survives only if the spacing of doubles divides it. -/
lemma Literal.Survives.dvd {literal : Literal} (h : literal.Survives i) (hlow : 2 ^ 63 ≤ i)
    (hhigh : i < 2 ^ 64) : literal.step ∣ i := by
  cases literal with
  | value _ => exact h
  | pattern _ =>
    obtain ⟨n, rfl⟩ := Int.eq_ofNat_of_zero_le (by omega : 0 ≤ i)
    have hround := Double.roundHalfEven_mem_range (n := n) (by omega) (by omega)
    have hdvd : 100 ∣ n := Double.hundred_dvd_of_plain (by omega) (by omega)
      (Double.rational?_ofInt (by omega) (by omega)) h
    exact Int.natCast_dvd_natCast.mpr hdvd

lemma denotes_float_iff {x : Double} : (Value.float x).Denotes i ↔ x.rational? = some (i : ℚ) :=
  ⟨fun | .float h => h, .float⟩

/-- The pattern of a numeral is the numeral between two wild cards. -/
lemma apply_contains_of_isSigned {s : String} (h : Digits.IsSigned s.toList) :
    Pattern.contains.apply s = "%" ++ s ++ "%" := by
  have hchars : s.toList.flatMap Pattern.escapeChar = s.toList := by
    have hchar (c : Char) (hc : c ∈ s.toList) : Pattern.escapeChar c = [c] := by
      have hplain := h.isDigit_or c hc
      refine if_neg ?_
      rintro (rfl | rfl | rfl) <;> revert hplain <;> decide
    rw [List.flatMap_congr hchar, List.flatMap_singleton']
  rw [Pattern.apply, Pattern.escape, hchars, String.ofList_toList]

/-- What is looked for is told by the pattern. -/
lemma between_inj {s t : String} : "%" ++ s ++ "%" = "%" ++ t ++ "%" ↔ s = t := by
  refine ⟨fun h => ?_, congrArg ("%" ++ · ++ "%")⟩
  have hchars := congrArg String.toList h
  exact String.toList_inj.mp (by simpa using hchars)

/-- An integer of 64 bits with a sign is an integer; one that needs all of its bits for its size is
a float. -/
lemma scalar_integer (hlow : -2 ^ 63 ≤ i) (h : Scalar (.number (.integer i)) v) :
    (i < 2 ^ 63 ∧ ∃ n : Int64, n.toInt = i ∧ v = .int n) ∨
      (2 ^ 63 ≤ i ∧ v = .float (.ofInt i)) := by
  cases h with
  | int n => exact .inl ⟨n.toInt_lt, n, rfl, rfl⟩
  | wide hwide =>
    refine .inr ⟨?_, rfl⟩
    by_contra hi
    exact hwide (.ofInt i) (Int64.toInt_ofInt_of_le (by omega) (by omega))

/-- An integer of 64 bits is in the range of the finite doubles. -/
lemma isFinite_ofInt (hlow : 2 ^ 63 ≤ i) (hhigh : i < 2 ^ 64) :
    (Double.ofInt i).isFinite = true := by
  obtain ⟨n, rfl⟩ := Int.eq_ofNat_of_zero_le (by omega : 0 ≤ i)
  have hrational := Double.rational?_ofInt (n := n) (by omega) (by omega)
  cases hx : Double.ofInt n with
  | finite => rfl
  | nan | infinite =>
    change (Double.ofInt (n : ℤ)).rational? = _ at hrational
    rw [hx] at hrational
    cases hrational

/-- An integer is held exactly, unless it is out of range and rounded. -/
lemma holds_iff {literal : Literal} (h : literal.Binds d v)
    (hscalar : literal.scalar = .number (.integer i)) (hlow : -2 ^ 63 ≤ i) (hhigh : i < 2 ^ 64) :
    literal.Holds v i ↔ i < 2 ^ 63 ∨ literal.Survives i := by
  obtain ⟨w, hw, rfl⟩ := h
  cases hw with
  | @value j w h =>
    obtain rfl : j = .number (.integer i) := hscalar
    rcases scalar_integer hlow h with ⟨hi, n, rfl, rfl⟩ | ⟨hi, rfl⟩
    · exact iff_of_true (.int n) (.inl hi)
    · rw [or_iff_right hi.not_gt]
      exact denotes_float_iff.trans (Double.rational?_ofInt_eq_iff hi hhigh)
  | @pattern j w h =>
    obtain rfl : j = .number (.integer i) := hscalar
    rcases scalar_integer hlow h with ⟨hi, n, rfl, rfl⟩ | ⟨hi, rfl⟩
    · refine iff_of_true ?_ (.inl hi)
      exact congrArg Value.text (apply_contains_of_isSigned (Digits.isSigned_toString n.toInt))
    · rw [or_iff_right hi.not_gt]
      have hpattern := apply_contains_of_isSigned (Double.isSigned_plain (isFinite_ofInt hi hhigh))
      change Value.text (Pattern.contains.apply (Double.ofInt i).plain) = _ ↔ _
      rw [hpattern, Value.text.injEq, between_inj]
      rfl

/-- The literals of a document are bound in order. The integers of 64 bits with a sign are held by
what is bound for them; those that need all of their bits for their size only if rounding them to a
float loses nothing, and none is then but a multiple of 2048, or of a hundred in a pattern. -/
theorem condition_holds_iff {schema : Option SchemaRegistry} {j : Json} {c : Condition}
    {out : Built} (hj : Condition.ofJson j = .ok c)
    (hout : (⟨d, schema, false⟩ : Builder).condition c = .ok out) :
    List.Forall₂ (fun literal v => literal.Binds d v ∧
        ∀ i : ℤ, literal.scalar = .number (.integer i) → -2 ^ 63 ≤ i → i < 2 ^ 64 →
          (literal.Holds v i ↔ i < 2 ^ 63 ∨ literal.Survives i) ∧
          (2 ^ 63 ≤ i → literal.Holds v i → literal.step ∣ i))
      ((literals j).filter (!·.isNull))
      ((out.allParams.toList.map Prod.snd).filter (!·.isNull)) := by
  refine (forall₂_binds hj hout).imp fun literal v hbinds => ⟨hbinds, ?_⟩
  intro i hscalar hlow hhigh
  have hiff := holds_iff hbinds hscalar hlow hhigh
  refine ⟨hiff, fun hwide hholds => ?_⟩
  exact ((hiff.mp hholds).resolve_left hwide.not_gt).dvd hwide hhigh

/-- A pattern, and a list with a null. -/
def wideDocument : Json :=
  .array [.string "and",
    .array [.string "Like", .string "a", .number (.integer 9223372036854775809)],
    .object [("n", .array [.null, .number (.integer 9223372036854775809),
      .number (.integer 9223372036854775808)])]]

/-- Of two integers that a float is next to, the even one is kept as a value, and none in a
pattern. -/
theorem condition_holds_iff_wide :
    ∃ c out, Condition.ofJson wideDocument = .ok c ∧
      (⟨.mysql, none, false⟩ : Builder).condition c = .ok out ∧
      out.allParams.toList.map Prod.snd = [.text "%9223372036854776000%",
        .float (.ofInt 9223372036854775808), .float (.ofInt 9223372036854775808)] ∧
      ¬(Literal.pattern (.number (.integer 9223372036854775809))).Holds
        (.text "%9223372036854776000%") 9223372036854775809 ∧
      ¬(Value.float (.ofInt 9223372036854775808)).Denotes 9223372036854775809 ∧
      (Value.float (.ofInt 9223372036854775808)).Denotes 9223372036854775808 := by
  let c : Condition := .and [.like .like "a" [.float (.ofInt 9223372036854775809)] false,
    .hash [("n", .list [.null, .float (.ofInt 9223372036854775809),
      .float (.ofInt 9223372036854775808)])]]
  let out : Built := ⟨"\x60a\x60 LIKE :a1 AND (\x60n\x60 IN (:n2, :n3) OR \x60n\x60 IS NULL)",
    some (.ofList [(":a1", .text "%9223372036854776000%"),
      (":n2", .float (.ofInt 9223372036854775808)), (":n3", .float (.ofInt 9223372036854775808))])⟩
  have hj : Condition.ofJson wideDocument = .ok c := by rfl
  have hout : (⟨.mysql, none, false⟩ : Builder).condition c = .ok out := by decide +kernel
  have hbound := condition_holds_iff hj hout
  have hliterals : (literals wideDocument).filter (!·.isNull) =
      [.pattern (.number (.integer 9223372036854775809)),
        .value (.number (.integer 9223372036854775809)),
        .value (.number (.integer 9223372036854775808))] := by rfl
  have hvalues : out.allParams.toList.map Prod.snd = [.text "%9223372036854776000%",
      .float (.ofInt 9223372036854775808), .float (.ofInt 9223372036854775808)] := by
    decide +kernel
  have hnonNulls : (out.allParams.toList.map Prod.snd).filter (!·.isNull) =
      out.allParams.toList.map Prod.snd := by decide +kernel
  rw [hliterals, hnonNulls, hvalues] at hbound
  obtain ⟨⟨-, hpattern⟩, hbound⟩ := List.forall₂_cons.mp hbound
  obtain ⟨⟨-, hodd⟩, hbound⟩ := List.forall₂_cons.mp hbound
  obtain ⟨⟨-, heven⟩, -⟩ := List.forall₂_cons.mp hbound
  refine ⟨c, out, hj, hout, hvalues, fun h => ?_, fun h => ?_, ?_⟩
  · have hdvd := (hpattern _ rfl (by decide) (by decide)).2 (by decide) h
    exact absurd hdvd (by decide)
  · have hdvd := (hodd _ rfl (by decide) (by decide)).2 (by decide) h
    exact absurd hdvd (by decide)
  · have hdvd : (2048 : ℤ) ∣ 9223372036854775808 := by decide
    exact (heven _ rfl (by decide) (by decide)).1.mpr (.inr hdvd)

end Grammar

end SqlCompose
