import Mathlib
import SqlCompose.Proofs.Like.Literal
import SqlCompose.Proofs.Operators

/-!
# Sets in escaped texts

The brackets of sets are not escaped. If an escaped text opens a set, the pattern is either none at
all or it matches fewer characters than the text has, so some subject tells it from the text.
-/

namespace SqlCompose

namespace Like

variable {set? : Option (List Symbol)} {cs : List Char} {items : List Item} {tests : List Test}

/-- A set takes the place of two or more characters of an escaped text. -/
lemma exists_tests_of_itemsWithSets?
    (h : itemsWithSets? set? (cs.map .ofChar ++ [.bare '%']) = some items) :
    ∃ tests : List Test, items = tests.map .one ++ [.run] ∧ tests.length ≤ cs.length ∧
      (set? = none → '[' ∈ cs → tests.length < cs.length) := by
  induction cs generalizing set? items with
  | nil =>
    cases set? with
    | none =>
      obtain rfl := Option.some.inj h
      exact ⟨[], rfl, le_rfl, by simp⟩
    | some set => simp [itemsWithSets?] at h
  | cons c cs ih =>
    rw [List.map_cons, List.cons_append] at h
    cases set? with
    | none =>
      rw [itemsWithSets?] at h
      split at h
      · obtain ⟨tests, hitems, hlength, -⟩ := ih h
        exact ⟨tests, hitems, Nat.le_succ_of_le hlength, fun _ _ => Nat.lt_succ_of_le hlength⟩
      · rename_i hopen
        rw [Symbol.ofChar_eq_bare_iff (by decide)] at hopen
        obtain ⟨rest, hrest, rfl⟩ := Option.map_eq_some_iff.mp h
        obtain ⟨tests, rfl, hlength, hless⟩ := ih hrest
        refine ⟨.is c :: tests, ?_, Nat.succ_le_succ hlength, fun _ hmem => ?_⟩
        · rw [Symbol.item_ofChar]
          rfl
        · have hcs : '[' ∈ cs := (List.mem_cons.mp hmem).resolve_left (Ne.symm hopen)
          exact Nat.succ_lt_succ (hless rfl hcs)
    | some set =>
      rw [itemsWithSets?] at h
      split at h
      · obtain ⟨rest, hrest, rfl⟩ := Option.map_eq_some_iff.mp h
        obtain ⟨tests, rfl, hlength, -⟩ := ih hrest
        exact ⟨.oneOf set :: tests, rfl, Nat.succ_le_succ hlength, by simp⟩
      · obtain ⟨tests, hitems, hlength, -⟩ := ih h
        exact ⟨tests, hitems, Nat.le_succ_of_le hlength, by simp⟩

end Like

namespace Dialect

/-- On SQL Server exactly the subjects with a text in them are like the pattern that looks for the
text, if and only if the text opens no set. -/
lemma forall_isLike_iff_iff (v : String) :
    (∀ s, mssql.isLike (Pattern.contains.apply v) s = true ↔ v.toList <:+: s.toList) ↔
      '[' ∉ v.toList := by
  refine ⟨fun hfinds hopen => ?_, fun h s => isLike_apply_iff fun _ => h⟩
  have hself : mssql.isLike (Pattern.contains.apply v) v = true := (hfinds v).mpr List.infix_rfl
  have hread : mssql.patternItems? (Pattern.contains.apply v) =
      (Like.itemsWithSets? none (v.toList.map .ofChar ++ [.bare '%'])).map (.run :: ·) := by
    rw [patternItems?, Pattern.symbols?_apply]
    rfl
  cases hitems : Like.itemsWithSets? none (v.toList.map .ofChar ++ [.bare '%']) with
  | none =>
    rw [isLike, hread, hitems] at hself
    cases hself
  | some items =>
    obtain ⟨tests, rfl, -, hless⟩ := Like.exists_tests_of_itemsWithSets? hitems
    have hlike (s : String) : mssql.isLike (Pattern.contains.apply v) s = true ↔
        ∃ t, t <:+: s.toList ∧ List.Forall₂ Like.Test.Passes tests t := by
      rw [isLike, hread, hitems]
      exact Pattern.accepts_items (p := .contains)
    -- what the tests match in the text itself is too short to have the text in it
    obtain ⟨t, -, ht⟩ := (hlike v).mp hself
    have hmatched : mssql.isLike (Pattern.contains.apply v) (.ofList t) = true :=
      (hlike _).mpr ⟨t, by simp, ht⟩
    have hfound := (hfinds (.ofList t)).mp hmatched
    rw [String.toList_ofList] at hfound
    have hlength := hfound.length_le
    rw [← ht.length_eq] at hlength
    exact absurd (hless rfl hopen) (Nat.not_lt_of_le hlength)

end Dialect

open Fragment

/-- A condition that looks for one text is a comparison with its pattern. -/
lemma Condition.fragment_likeBy (d : Dialect) (column v : String) :
    (Condition.likeBy .like column [.text v]).fragment d =
      [.text (d.quoteColumn column ++ " LIKE "), .slot column (.text (Pattern.contains.apply v)),
        .text d.likeEscape] := by
  have hkeyword : d.quoteColumn column ++ " " ++ likeKeyword d .like ++ " " =
      d.quoteColumn column ++ " LIKE " := by
    rw [String.append_assoc, String.append_assoc]
    rfl
  rw [Condition.likeBy, Condition.fragment, ← hkeyword]
  rfl

namespace Builder

/-- On SQL Server a condition and a lookup that look for a text bind the same pattern, with the
backslash declared as its escape; it finds the text literally if and only if the text opens no
set. -/
theorem contains_finds_iff (schema : Option SchemaRegistry) (column v : String) :
    ∃ out name pattern,
      (⟨.mssql, schema, false⟩ : Builder).condition (.likeBy .like column [.text v]) = .ok out ∧
      (⟨.mssql, schema, false⟩ : Builder).condition
        (.lookup column .contains (.value (.text v))) = .ok out ∧
      out.sql = Dialect.mssql.quoteColumn column ++ " LIKE " ++ name ++ " ESCAPE '\\'" ∧
      out.allParams.toList = [(name, .text pattern)] ∧
      ((∀ s : String, Dialect.mssql.isLike pattern s = true ↔ v.toList <:+: s.toList) ↔
        '[' ∉ v.toList) := by
  let b : Builder := ⟨.mssql, schema, false⟩
  let s : Draft := .condition (.likeBy .like column [.text v])
  let pattern := Pattern.contains.apply v
  let name := ((b.startFor s).bind column (.text pattern)).1
  have hfragment : s.fragment .mssql schema =
      [.text (Dialect.mssql.quoteColumn column ++ " LIKE "), .slot column (.text pattern),
        .text " ESCAPE '\\'"] := Condition.fragment_likeBy .mssql column v
  have herror : error? (s.fragment .mssql schema) = none := by
    rw [hfragment]
    rfl
  have hwrite := b.write_eq_match (s := s)
  rw [herror] at hwrite
  have hplaced : b.placed s = [(name, .text pattern)] := by
    rw [placed, hfragment]
    rfl
  have hlookup : b.condition (.lookup column .contains (.value (.text v))) = b.write s :=
    condition_congr rfl (map_based_contains .mssql column rfl)
  refine ⟨_, name, pattern, hwrite, hlookup.trans hwrite, ?_, ?_, Dialect.forall_isLike_iff_iff v⟩
  · rw [sql_of_write hwrite, hplaced, hfragment]
    simp [fill, String.append_assoc]
  · rw [toList_allParams (b := b) rfl hwrite rfl, hplaced]
    rfl

/-- A text in brackets is taken for a set of which one character is enough, unless the opening
bracket is escaped. -/
example : Dialect.mssql.isLike "%[b]%" "b" = true ∧ Dialect.mssql.isLike "%\\[b]%" "b" = false ∧
    Dialect.mssql.isLike "%\\[b]%" "a[b]" = true := by decide

end Builder

end SqlCompose
