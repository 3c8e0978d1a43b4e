import Mathlib
import SqlCompose.Proofs.Like.Matching
import SqlCompose.Proofs.Placeholders
import SqlCompose.Proofs.Refusal.Query

/-!
# Escaped texts as patterns

An escaped text is read as the characters of the text, so a pattern that looks for a text matches
the subjects in which the text is found. On SQL Server that holds of texts without opening brackets.
A condition binds such a pattern for each of its values, in order.
-/

namespace SqlCompose

open Fragment

namespace Pattern

/-- Whether a text stands in a subject where a pattern looks for it. -/
def Finds : Pattern → List Char → List Char → Prop
  | .contains, t, s => t <:+: s
  | .startsWith, t, s => t <+: s
  | .endsWith, t, s => t <:+ s

/-- The items of a pattern that looks for characters that pass some tests. -/
def items : Pattern → List Like.Test → List Like.Item
  | .contains, tests => .run :: (tests.map .one ++ [.run])
  | .startsWith, tests => tests.map .one ++ [.run]
  | .endsWith, tests => .run :: tests.map .one

variable {p : Pattern} {tests : List Like.Test} {s : List Char}

/-- What is looked for is found where the pattern looks. -/
lemma accepts_items : Like.accepts (p.items tests) s = true ↔
    ∃ t, p.Finds t s ∧ List.Forall₂ Like.Test.Passes tests t := by
  cases p with
  | contains =>
    rw [items, Like.accepts_run_cons]
    simp only [Like.accepts_map_one_append, Like.accepts_run, Finds]
    constructor
    · rintro ⟨_, hsuffix, t, rest, rfl, ht, -⟩
      exact ⟨t, (List.prefix_append t rest).isInfix.trans hsuffix.isInfix, ht⟩
    · rintro ⟨t, ⟨before, rest, rfl⟩, ht⟩
      exact ⟨t ++ rest, ⟨before, by simp⟩, t, rest, rfl, ht, trivial⟩
  | startsWith =>
    rw [items, Like.accepts_map_one_append]
    constructor
    · rintro ⟨t, rest, rfl, ht, -⟩
      exact ⟨t, List.prefix_append t rest, ht⟩
    · rintro ⟨t, ⟨rest, rfl⟩, ht⟩
      exact ⟨t, rest, rfl, ht, Like.accepts_run⟩
  | endsWith =>
    rw [items, Like.accepts_run_cons]
    simp only [Like.accepts_map_one]
    rfl

end Pattern

namespace Like

variable {c : Char} {cs rest : List Char} {us : List Symbol}

/-! ### Reading escaped texts -/

/-- What a character of an escaped text is read as. -/
def Symbol.ofChar (c : Char) : Symbol :=
  if c = '%' ∨ c = '_' ∨ c = '\\' then .escaped c else .bare c

/-- It stands for itself. -/
lemma Symbol.item_ofChar (c : Char) : (Symbol.ofChar c).item = .one (.is c) := by
  rw [ofChar]
  split
  · rfl
  · rename_i h
    rw [not_or, not_or] at h
    rw [item, if_neg h.1, if_neg h.2.1]

/-- A character that is not escaped is read as itself alone. -/
lemma Symbol.ofChar_eq_bare_iff {c' : Char} (h : c' ∉ ['%', '_', '\\']) :
    Symbol.ofChar c = .bare c' ↔ c = c' := by
  simp only [List.mem_cons, List.not_mem_nil, or_false] at h
  rw [ofChar]
  constructor
  · intro hbare
    split at hbare
    · cases hbare
    · exact Symbol.bare.inj hbare
  · rintro rfl
    exact if_neg h

lemma symbols?_cons (hc : c ≠ '\\') : symbols? (c :: cs) = (symbols? cs).map (.bare c :: ·) := by
  rw [symbols?]
  · exact fun h _ => hc h
  · exact fun _ _ h _ => hc h

/-- Escaped characters are read as themselves. -/
lemma symbols?_escape_append : symbols? (cs.flatMap Pattern.escapeChar ++ rest) =
    (symbols? rest).map (cs.map .ofChar ++ ·) := by
  induction cs with
  | nil => simp
  | cons c cs ih =>
    have hchar (rest : List Char) : symbols? (Pattern.escapeChar c ++ rest) =
        (symbols? rest).map (.ofChar c :: ·) := by
      rw [Pattern.escapeChar, Symbol.ofChar]
      split
      · rfl
      · rename_i h
        rw [not_or, not_or] at h
        exact symbols?_cons h.2.2
    rw [List.flatMap_cons, List.append_assoc, hchar, ih, Option.map_map]
    rfl

/-- Without brackets every symbol is an item of its own. -/
lemma itemsWithSets?_of_not_mem (h : .bare '[' ∉ us) :
    itemsWithSets? none us = some (us.map Symbol.item) := by
  induction us with
  | nil => rfl
  | cons u us ih =>
    rw [List.mem_cons, not_or] at h
    rw [itemsWithSets?, if_neg (Ne.symm h.1), ih h.2]
    rfl

end Like

def Pattern.symbols : Pattern → List Char → List Like.Symbol
  | .contains, cs => .bare '%' :: (cs.map .ofChar ++ [.bare '%'])
  | .startsWith, cs => cs.map .ofChar ++ [.bare '%']
  | .endsWith, cs => .bare '%' :: cs.map .ofChar

/-- The pattern that looks for a text is read as the symbols of the text. -/
lemma Pattern.symbols?_apply (p : Pattern) (v : String) :
    Like.symbols? (p.apply v).toList = some (p.symbols v.toList) := by
  cases p with
  | contains =>
    have hchars : (apply .contains v).toList =
        '%' :: (v.toList.flatMap escapeChar ++ ['%']) := by simp [apply, escape]
    rw [hchars, Like.symbols?_cons (by decide), Like.symbols?_escape_append]
    rfl
  | startsWith =>
    have hchars : (apply .startsWith v).toList = v.toList.flatMap escapeChar ++ ['%'] := by
      simp [apply, escape]
    rw [hchars, Like.symbols?_escape_append]
    rfl
  | endsWith =>
    have hchars : (apply .endsWith v).toList = '%' :: (v.toList.flatMap escapeChar ++ []) := by
      simp [apply, escape]
    rw [hchars, Like.symbols?_cons (by decide), Like.symbols?_escape_append]
    simp [Like.symbols?, symbols]

lemma Pattern.map_item_symbols (p : Pattern) (cs : List Char) :
    (p.symbols cs).map Like.Symbol.item = p.items (cs.map .is) := by
  have hchars : (cs.map Like.Symbol.ofChar).map Like.Symbol.item = (cs.map .is).map .one := by
    rw [List.map_map, List.map_map]
    exact List.map_congr_left fun c _ => Like.Symbol.item_ofChar c
  cases p <;> simp [symbols, items, hchars, Like.Symbol.item]

lemma Pattern.bracket_not_mem_symbols {p : Pattern} {cs : List Char} (h : '[' ∉ cs) :
    .bare '[' ∉ p.symbols cs := by
  have hchars : .bare '[' ∉ cs.map Like.Symbol.ofChar := by
    intro hmem
    obtain ⟨c, hc, hbare⟩ := List.mem_map.mp hmem
    obtain rfl := (Like.Symbol.ofChar_eq_bare_iff (by decide)).mp hbare
    exact h hc
  cases p <;> simp [symbols, hchars]

/-- A subject is like the pattern that looks for a text exactly if the text is found in it, unless
the text opens a set. -/
lemma Dialect.isLike_apply_iff {d : Dialect} {p : Pattern} {v s : String}
    (h : d = .mssql → '[' ∉ v.toList) :
    d.isLike (p.apply v) s = true ↔ p.Finds v.toList s.toList := by
  have hitems : d.patternItems? (p.apply v) = some (p.items (v.toList.map .is)) := by
    rw [patternItems?, p.symbols?_apply, Option.bind_some]
    split
    · rename_i hd
      rw [Like.itemsWithSets?_of_not_mem (Pattern.bracket_not_mem_symbols (h hd)),
        p.map_item_symbols]
    · rw [p.map_item_symbols]
  rw [isLike, hitems, Option.any_some, Pattern.accepts_items]
  simp only [Like.forall₂_admits_is, exists_eq_right]

/-- Whether a pattern is bound that exactly the subjects with the text of a value in them are
like. -/
def Dialect.FindsLiterally (d : Dialect) (v bound : Value) : Prop :=
  ∃ pattern, bound = .text pattern ∧
    ∀ s : String, d.isLike pattern s = true ↔ v.display.toList <:+: s.toList

/-! ### The patterns of a condition -/

/-- A condition has a pattern for each of its values. -/
lemma Fragment.effects_like (d : Dialect) (op : LikeOp) (column : String) {values : List Value}
    (h : .null ∉ values) : effects (like d op column values false) =
      values.map fun v => .slot column (.text (Pattern.contains.apply v.display)) := by
  have hvalue : ∀ v ∈ values, effects (likeValue d op column false v) =
      [.slot column (.text (Pattern.contains.apply v.display))] := by
    intro v hv
    have hnull : v.isNull = false := by
      cases v with
      | null => exact absurd hv h
      | _ => rfl
    simp [likeValue, hnull]
  have hvalues : (values.map (likeValue d op column false)).flatMap effects =
      values.map fun v => .slot column (.text (Pattern.contains.apply v.display)) := by
    rw [List.flatMap_map, List.flatMap_congr hvalue, ← List.map_eq_flatMap]
  rw [← hvalues, like]
  split
  · rename_i hnil
    rw [hnil]
    cases op <;> rfl
  · rename_i one hone
    rw [hone]
    simp
  · rw [effects_bracket, effects_join]

namespace Builder

variable {d : Dialect} {values : List Value}

/-- A condition binds the pattern of each of its values, in order. -/
lemma exists_condition_likeBy (d : Dialect) (schema : Option SchemaRegistry) (op : LikeOp)
    (column : String) (h : .null ∉ values) :
    ∃ out, (⟨d, schema, false⟩ : Builder).condition (.likeBy op column values) = .ok out ∧
      out.allParams.toList.map Prod.snd =
        values.map fun v => .text (Pattern.contains.apply v.display) := by
  let b : Builder := ⟨d, schema, false⟩
  let s : Draft := .condition (.likeBy op column values)
  have hfragment : s.fragment d schema = like d op column values false := by
    rw [Draft.fragment, Condition.likeBy, Condition.fragment]
  have herror : error? (s.fragment d schema) = none := by
    rw [hfragment, error?_like]
    exact h
  have hwrite := b.write_eq_match (s := s)
  rw [herror] at hwrite
  have hplaced : (b.placed s).map Prod.snd =
      values.map fun v => .text (Pattern.contains.apply v.display) := by
    rw [placed, ← Binding.placed_effects, hfragment, effects_like d op column h,
      Binding.map_snd_placed]
    · rw [Fragment.values, List.filterMap_map]
      exact congrFun List.filterMap_eq_map values
    · simp [error?, Piece.error?]
  refine ⟨_, hwrite, ?_⟩
  have hbound := toList_allParams (b := b) rfl hwrite rfl
  -- a text is bound as it is
  rw [hbound, ← hplaced, List.map_map]
  refine List.map_congr_left fun p hp => ?_
  have hpattern : p.2 ∈ values.map fun v => .text (Pattern.contains.apply v.display) :=
    hplaced ▸ List.mem_map_of_mem hp
  obtain ⟨v, -, hv⟩ := List.mem_map.mp hpattern
  change Binding.boundValue d p.2 = p.2
  rw [← hv]
  rfl

/-- Outside of SQL Server, a pattern finds its text literally, and so does each pattern that a
condition binds. -/
theorem likeBy_finds (hd : d ≠ .mssql) (schema : Option SchemaRegistry) :
    (∀ (p : Pattern) (v s : String),
      d.isLike (p.apply v) s = true ↔ p.Finds v.toList s.toList) ∧
    ∀ (op : LikeOp) (column : String) (values : List Value), .null ∉ values →
      ∃ out, (⟨d, schema, false⟩ : Builder).condition (.likeBy op column values) = .ok out ∧
        List.Forall₂ d.FindsLiterally values (out.allParams.toList.map Prod.snd) := by
  refine ⟨fun p v s => Dialect.isLike_apply_iff fun h => absurd h hd, ?_⟩
  intro op column values hnull
  obtain ⟨out, hout, hbound⟩ := exists_condition_likeBy d schema op column hnull
  refine ⟨out, hout, ?_⟩
  rw [hbound, List.forall₂_map_right_iff, List.forall₂_same]
  exact fun v _ => ⟨_, rfl, fun s => Dialect.isLike_apply_iff fun h => absurd h hd⟩

/-- A text of wild cards with a backslash at its end, in a subject and away from it. -/
theorem likeBy_finds_wildcards :
    Dialect.mysql ≠ .mssql ∧ Value.null ∉ [.text "%_\\"] ∧
    Dialect.mysql.isLike (Pattern.startsWith.apply "%_\\") "%_\\%" = true ∧
    Dialect.mysql.isLike (Pattern.endsWith.apply "%_\\") "ab\\" = false ∧
    ∃ out, (⟨.mysql, none, false⟩ : Builder).condition (.likeBy .like "a" [.text "%_\\"]) =
        .ok out ∧
      List.Forall₂ Dialect.mysql.FindsLiterally [.text "%_\\"]
        (out.allParams.toList.map Prod.snd) := by
  have hd : Dialect.mysql ≠ .mssql := by decide
  have hnull : Value.null ∉ [.text "%_\\"] := by decide
  obtain ⟨hfinds, hbinds⟩ := likeBy_finds hd none
  refine ⟨hd, hnull, ?_, ?_, hbinds .like "a" _ hnull⟩
  · have hstart : "%_\\".toList <+: "%_\\%".toList := by decide
    exact (hfinds .startsWith _ _).mpr hstart
  · have hend : ¬"%_\\".toList <:+ "ab\\".toList := by decide
    rw [← Bool.not_eq_true]
    exact mt (hfinds .endsWith _ _).mp hend

end Builder

end SqlCompose
