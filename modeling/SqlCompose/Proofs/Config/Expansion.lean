import Mathlib
import SqlCompose.Config.Environment

/-!
# The references of a text

A text is divided from left to right into characters that stand for themselves and references, each
from its opening to the first closing brace behind it. Every text is divided in one way. Resolving
its references puts values for them and keeps all other characters; the values are not divided
again. It fails exactly if a reference cannot be resolved, with the error of the first one.
-/

namespace SqlCompose

namespace Environment

/-- A part of a text: a character that stands for itself, or a reference. -/
inductive Part
  | plain (c : Char)
  | reference (key : List Char)
  /-- A reference that the end of the text leaves open. -/
  | unclosed (key : List Char)

def opening : List Char := ['$', '\x7b']

/-- How a text is divided into parts. -/
inductive Divides : List Char → List Part → Prop
  | nil : Divides [] []
  | plain {c : Char} {s : List Char} {parts : List Part} (hplain : ¬opening <+: c :: s)
      (h : Divides s parts) : Divides (c :: s) (.plain c :: parts)
  | reference {key s : List Char} {parts : List Part} (hkey : '\x7d' ∉ key)
      (h : Divides s parts) :
      Divides (opening ++ key ++ '\x7d' :: s) (.reference key :: parts)
  | unclosed {key : List Char} (hkey : '\x7d' ∉ key) : Divides (opening ++ key) [.unclosed key]

namespace Part

/-- Why a part is not resolved. -/
def error? (env : Environment) : Part → Option ReferenceError
  | .plain _ => none
  | .reference [] => some .emptyKey
  | .reference key => if (env (.ofList key)).isSome then none else some (.unset (.ofList key))
  | .unclosed key => some (.unterminated (.ofList key))

/-- What is put for a part. -/
def value (env : Environment) : Part → List Char
  | .plain c => [c]
  | .reference key | .unclosed key => ((env (.ofList key)).getD "").toList

end Part

variable {env : Environment} {c : Char} {s key before rest : List Char} {parts parts' : List Part}

/-! ### One division for each text -/

/-- What stands before the first closing brace is determined. -/
lemma eq_of_append_brace_eq {key' rest' : List Char} (hkey : '\x7d' ∉ key) (hkey' : '\x7d' ∉ key')
    (h : key ++ '\x7d' :: rest = key' ++ '\x7d' :: rest') : key = key' ∧ rest = rest' := by
  induction key generalizing key' with
  | nil =>
    cases key' with
    | nil => exact ⟨rfl, (List.cons.inj h).2⟩
    | cons c' key' => exact absurd (List.cons.inj h).1 (List.ne_of_not_mem_cons hkey')
  | cons c key ih =>
    cases key' with
    | nil => exact absurd (List.cons.inj h).1.symm (List.ne_of_not_mem_cons hkey)
    | cons c' key' =>
      obtain ⟨rfl, htail⟩ := List.cons.inj h
      obtain ⟨rfl, rfl⟩ := ih (List.not_mem_of_not_mem_cons hkey)
        (List.not_mem_of_not_mem_cons hkey') htail
      exact ⟨rfl, rfl⟩

lemma divides_nil_iff : Divides [] parts ↔ parts = [] := by
  constructor
  · generalize hs : [] = s
    rintro (_ | _ | _ | _)
    · rfl
    all_goals simp [opening] at hs
  · rintro rfl
    exact .nil

lemma divides_plain_iff (hplain : ¬opening <+: c :: s) :
    Divides (c :: s) parts ↔ ∃ parts', parts = .plain c :: parts' ∧ Divides s parts' := by
  constructor
  · generalize hs : c :: s = t
    rintro (_ | ⟨_, h⟩ | _ | _)
    · cases hs
    · obtain ⟨rfl, rfl⟩ := List.cons.inj hs
      exact ⟨_, rfl, h⟩
    · exact absurd ⟨_, (hs.trans (List.append_assoc _ _ _)).symm⟩ hplain
    · exact absurd ⟨_, hs.symm⟩ hplain
  · rintro ⟨parts', rfl, h⟩
    exact .plain hplain h

/-- A reference reaches up to the first closing brace. -/
lemma divides_reference_iff (hkey : '\x7d' ∉ key) :
    Divides (opening ++ key ++ '\x7d' :: s) parts ↔
      ∃ parts', parts = .reference key :: parts' ∧ Divides s parts' := by
  constructor
  · generalize hs : opening ++ key ++ '\x7d' :: s = t
    rintro (_ | ⟨hplain, -⟩ | ⟨hkey', h⟩ | hkey')
    · simp [opening] at hs
    · exact absurd ⟨_, (List.append_assoc _ _ _).symm.trans hs⟩ hplain
    · rw [List.append_assoc, List.append_assoc, List.append_cancel_left_eq] at hs
      obtain ⟨rfl, rfl⟩ := eq_of_append_brace_eq hkey hkey' hs
      exact ⟨_, rfl, h⟩
    · rw [List.append_assoc, List.append_cancel_left_eq] at hs
      exact absurd (hs ▸ List.mem_append_right key List.mem_cons_self) hkey'
  · rintro ⟨parts', rfl, h⟩
    exact .reference hkey h

/-- Without a closing brace the rest of the text is one unclosed reference. -/
lemma divides_unclosed_iff (hkey : '\x7d' ∉ key) :
    Divides (opening ++ key) parts ↔ parts = [.unclosed key] := by
  constructor
  · generalize hs : opening ++ key = t
    rintro (_ | ⟨hplain, -⟩ | _ | _)
    · simp [opening] at hs
    · exact absurd ⟨_, hs⟩ hplain
    · rw [List.append_assoc, List.append_cancel_left_eq] at hs
      exact absurd (hs ▸ List.mem_append_right _ List.mem_cons_self) hkey
    · rw [List.append_cancel_left_eq] at hs
      rw [hs]
  · rintro rfl
    exact .unclosed hkey

/-- A text is divided in one way only. -/
lemma Divides.unique (h : Divides s parts) (h' : Divides s parts') : parts' = parts := by
  induction h generalizing parts' with
  | nil => exact divides_nil_iff.mp h'
  | plain hplain _ ih =>
    obtain ⟨rest, rfl, hrest⟩ := (divides_plain_iff hplain).mp h'
    rw [ih hrest]
  | reference hkey _ ih =>
    obtain ⟨rest, rfl, hrest⟩ := (divides_reference_iff hkey).mp h'
    rw [ih hrest]
  | unclosed hkey => exact (divides_unclosed_iff hkey).mp h'

/-- A text is cut at its first closing brace, or has none. -/
lemma exists_key (s : List Char) :
    ∃ key, '\x7d' ∉ key ∧ (s = key ∨ ∃ rest, s = key ++ '\x7d' :: rest) := by
  by_cases h : '\x7d' ∈ s
  · obtain ⟨key, rest, hs, hkey⟩ := List.eq_append_cons_of_mem h
    exact ⟨key, hkey, .inr ⟨rest, hs⟩⟩
  · exact ⟨s, h, .inl rfl⟩

/-- Behind a reference or a character, a shorter text is left to divide. -/
lemma exists_divides (s : List Char) : ∃ parts, Divides s parts := by
  induction hlength : s.length using Nat.strong_induction_on generalizing s with
  | _ n ih =>
    subst hlength
    cases s with
    | nil => exact ⟨[], .nil⟩
    | cons c s =>
      by_cases hopening : opening <+: c :: s
      -- the reference ends at the first closing brace, or takes all of the text
      · obtain ⟨t, ht⟩ := hopening
        obtain ⟨key, hkey, rfl | ⟨rest, rfl⟩⟩ := exists_key t
        · exact ⟨[.unclosed t], ht ▸ .unclosed hkey⟩
        · have hshorter : rest.length < (c :: s).length := by
            rw [← ht]
            simp only [List.length_append, List.length_cons]
            omega
          obtain ⟨parts, h⟩ := ih _ hshorter rest rfl
          rw [← ht, ← List.append_assoc]
          exact ⟨.reference key :: parts, .reference hkey h⟩
      · obtain ⟨parts, h⟩ := ih _ (Nat.lt_succ_self _) s rfl
        exact ⟨.plain c :: parts, .plain hopening h⟩

/-! ### Resolving the parts -/

lemma expandChars_plain (hplain : ¬opening <+: c :: s) :
    env.expandChars (c :: s) = (env.expandChars s).map (c :: ·) := by
  rw [expandChars]
  rintro rest rfl rfl
  exact hplain ⟨rest, rfl⟩

/-- The characters of a key are passed over up to the closing brace. -/
lemma expandKey_append (hkey : '\x7d' ∉ key) (before rest : List Char) :
    env.expandKey before (key ++ rest) = env.expandKey (key.reverse ++ before) rest := by
  induction key generalizing before with
  | nil => rfl
  | cons c key ih =>
    rw [List.mem_cons, not_or] at hkey
    rw [List.cons_append, expandKey, if_neg (Ne.symm hkey.1), ih hkey.2]
    simp

lemma expandChars_opening (env : Environment) (hkey : '\x7d' ∉ key) (rest : List Char) :
    env.expandChars (opening ++ key ++ rest) = env.expandKey key.reverse rest := by
  have hopening : env.expandChars (opening ++ (key ++ rest)) = env.expandKey [] (key ++ rest) := by
    rw [opening, List.cons_append, List.singleton_append, expandChars]
  rw [List.append_assoc, hopening, expandKey_append hkey, List.append_nil]

/-- A reference is resolved exactly if nothing is wrong with it, and then to its value. -/
lemma resolve_eq (env : Environment) (key : List Char) :
    env.resolve key =
      match (Part.reference key).error? env with
      | some e => .error e
      | none => .ok ((Part.reference key).value env) := by
  cases key with
  | nil => rfl
  | cons c key =>
    rw [resolve, if_neg (by simp), Part.error?, Part.value]
    · cases env (.ofList (c :: key)) <;> rfl
    · simp

/-- Resolving a text resolves its first part and then the others, up to the first part that is not
resolved. -/
lemma Divides.expandChars_eq (h : Divides s parts) :
    env.expandChars s =
      match parts.findSome? (Part.error? env) with
      | some e => .error e
      | none => .ok (parts.flatMap (Part.value env)) := by
  induction h with
  | nil => rw [expandChars, List.findSome?_nil, List.flatMap_nil]
  | @plain c s parts hplain _ ih =>
    rw [expandChars_plain hplain, ih, List.findSome?_cons_of_isNone rfl]
    cases parts.findSome? (Part.error? env) <;> rfl
  | @reference key s parts hkey _ ih =>
    rw [expandChars_opening env hkey, expandKey, if_pos rfl, List.reverse_reverse, resolve_eq, ih,
      List.findSome?_cons]
    cases (Part.reference key).error? env with
    | some e => rfl
    | none => cases parts.findSome? (Part.error? env) <;> rfl
  | @unclosed key hkey =>
    have hend := expandChars_opening env hkey []
    rw [List.append_nil, expandKey, List.reverse_reverse] at hend
    rw [hend, List.findSome?_cons]
    rfl

/-- The first part that is not resolved gives the error. -/
lemma Divides.expand_eq_error_iff {s : String} {e : QueryError} (h : Divides s.toList parts) :
    env.expand s = .error e ↔
      ∃ before part after reason, parts = before ++ part :: after ∧
        (∀ p ∈ before, p.error? env = none) ∧ part.error? env = some reason ∧
        e = .config reason.message := by
  rw [expand, h.expandChars_eq]
  constructor
  · cases hfirst : parts.findSome? (Part.error? env) with
    | none => exact fun he => nomatch he
    | some reason =>
      rintro ⟨⟩
      obtain ⟨before, part, after, hparts, hpart, hbefore⟩ := List.findSome?_eq_some_iff.mp hfirst
      exact ⟨before, part, after, reason, hparts, hbefore, hpart, rfl⟩
  · rintro ⟨before, part, after, reason, hparts, hbefore, hpart, rfl⟩
    rw [List.findSome?_eq_some_iff.mpr ⟨before, part, after, hparts, hpart, hbefore⟩]

/-- A text is expanded exactly if every part is resolved, to the values of its parts. -/
lemma Divides.expand_eq_ok_iff {s out : String} (h : Divides s.toList parts) :
    env.expand s = .ok out ↔
      (∀ p ∈ parts, p.error? env = none) ∧ out = .ofList (parts.flatMap (Part.value env)) := by
  rw [expand, h.expandChars_eq, ← List.findSome?_eq_none_iff]
  cases parts.findSome? (Part.error? env) with
  | none => simp [eq_comm]
  | some reason => simp

/-- A text is divided in one way. Resolving its references fails exactly if a part cannot be
resolved, with the error of the first such part; else each reference is replaced by its value, in
which nothing is replaced, and every other character stays. -/
theorem expand_eq_parts (env : Environment) (s : String) :
    ∃ parts, (∀ ps, Divides s.toList ps ↔ ps = parts) ∧
      (∀ e, env.expand s = .error e ↔
        ∃ before part after reason, parts = before ++ part :: after ∧
          (∀ p ∈ before, p.error? env = none) ∧ part.error? env = some reason ∧
          e = .config reason.message) ∧
      ∀ out, env.expand s = .ok out ↔
        (∀ p ∈ parts, p.error? env = none) ∧ out = .ofList (parts.flatMap (Part.value env)) := by
  obtain ⟨parts, h⟩ := exists_divides s.toList
  refine ⟨parts, fun ps => ⟨h.unique, ?_⟩, fun _ => h.expand_eq_error_iff,
    fun _ => h.expand_eq_ok_iff⟩
  rintro rfl
  exact h

/-- A dollar sign before a reference is kept, and a reference in a value stays as it is. -/
example : expand (fun key => if key = "A" then some "$\x7bB\x7d" else none) "$$\x7bA\x7d\x7d" =
    .ok "$$\x7bB\x7d\x7d" := by
  rfl

end Environment

end SqlCompose
