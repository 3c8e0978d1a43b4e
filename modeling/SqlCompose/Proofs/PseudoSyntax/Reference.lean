import Mathlib
import SqlCompose.Dialect.PseudoSyntax

/-!
# Where references end

A character that can stand in no reference ends the text in which one can stand, so what is between
two such characters is resolved as if it stood alone.
-/

namespace SqlCompose

/-- The brackets of which two open a reference. -/
def openingBrackets : List Char := ['[', '\x7b']

namespace Reference

variable {d : Dialect} {tablePrefix : String} {u r cs : List Char} {c x : Char}

/-! ### Where a reference ends -/

/-- Whether a character belongs to no reference. -/
def isForeign (c : Char) : Bool :=
  !(isNameChar c || c == '%' || c == '[' || c == ']' || c == '\x7b' || c == '\x7d')

lemma isForeign_iff : isForeign x = true ↔
    isNameChar x = false ∧ x ≠ '%' ∧ x ≠ '[' ∧ x ≠ ']' ∧ x ≠ '\x7b' ∧ x ≠ '\x7d' := by
  simp [isForeign, and_assoc]

lemma not_mem_openingBrackets (hx : isForeign x = true) : x ∉ openingBrackets := by
  obtain ⟨-, -, hcolumn, -, htable, -⟩ := isForeign_iff.mp hx
  simp [openingBrackets, hcolumn, htable]

/-- A reference starts with two brackets of a kind. -/
lemma ofChars?_cons_eq_none (h : c ∈ openingBrackets → r.head? ≠ some c) :
    ofChars? (c :: r) = none := by
  unfold ofChars?
  split
  · rename_i heq
    obtain ⟨rfl, rfl⟩ := List.cons.inj heq
    exact absurd rfl (h (by decide))
  · rename_i heq
    obtain ⟨rfl, rfl⟩ := List.cons.inj heq
    exact absurd rfl (h (by decide))
  · rfl

lemma percent_append (hx : x ≠ '%') :
    percent (u ++ x :: r) = ((percent u).1, (percent u).2 ++ x :: r) := by
  cases u with
  | nil => simp [percent, hx]
  | cons c u =>
    unfold percent
    by_cases hc : c = '%'
    · subst hc
      rfl
    · simp [hc]

/-- A name ends before a character that is no part of one. -/
lemma span_append (hx : isNameChar x = false) :
    (u ++ x :: r).span isNameChar =
      ((u.span isNameChar).1, (u.span isNameChar).2 ++ x :: r) := by
  simp only [List.span_eq_takeWhile_dropWhile]
  induction u with
  | nil => simp [hx]
  | cons c u ih =>
    by_cases hc : isNameChar c = true
    · simp_all
    · simp [hc]

/-- A character that belongs to no reference ends the text in which one can stand. -/
lemma ofChars?_append (hx : isForeign x = true) : ofChars? (u ++ x :: r) = ofChars? u := by
  obtain ⟨hname, hpercent, hcolumn, hcolumn', htable, htable'⟩ := isForeign_iff.mp hx
  match u with
  | [] => exact ofChars?_cons_eq_none fun h => absurd h (not_mem_openingBrackets hx)
  | [c] =>
    have hnone (r : List Char) (hr : ∀ c' ∈ r.head?, c' = x) : ofChars? (c :: r) = none := by
      refine ofChars?_cons_eq_none fun hc hhead => not_mem_openingBrackets hx ?_
      rwa [← hr c hhead]
    rw [List.singleton_append, hnone _ (by simp), hnone [] (by simp)]
  | c :: c' :: u =>
    by_cases hbraces : c = '\x7b' ∧ c' = '\x7b'
    · obtain ⟨rfl, rfl⟩ := hbraces
      simp only [List.cons_append, ofChars?, percent_append hpercent, span_append hname]
      generalize (percent u).2.span isNameChar = parts
      obtain ⟨name, rest⟩ := parts
      dsimp only
      generalize (percent rest).2 = rest'
      cases name with
      | nil => rfl
      | cons n name =>
        match rest' with
        | [] => simp [htable']
        | [a] => by_cases ha : a = '\x7d' <;> simp [ha, htable']
        | a :: b :: rest' => by_cases ha : a = '\x7d' <;> by_cases hb : b = '\x7d' <;> simp [ha, hb]
    · by_cases hbrackets : c = '[' ∧ c' = '['
      · obtain ⟨rfl, rfl⟩ := hbrackets
        simp only [List.cons_append, ofChars?, span_append hname]
        generalize u.span isNameChar = parts
        obtain ⟨name, rest⟩ := parts
        dsimp only
        cases name with
        | nil => rfl
        | cons n name =>
          match rest with
          | [] => simp [hcolumn']
          | [a] => by_cases ha : a = ']' <;> simp [ha, hcolumn']
          | a :: b :: rest => by_cases ha : a = ']' <;> by_cases hb : b = ']' <;> simp [ha, hb]
      · have hnone (r : List Char) : ofChars? (c :: c' :: r) = none := by
          refine ofChars?_cons_eq_none fun hc hhead => ?_
          obtain rfl := Option.some.inj hhead
          rcases List.mem_pair.mp hc with rfl | rfl
          · exact hbrackets ⟨rfl, rfl⟩
          · exact hbraces ⟨rfl, rfl⟩
        rw [List.cons_append, List.cons_append, hnone, hnone]

/-- A reference is no longer than the text that it starts. -/
lemma length_le_of_ofChars? {reference : Reference} (h : ofChars? u = some reference) :
    reference.length ≤ u.length := by
  have hpercent (r : List Char) : (percent r).1.length + (percent r).2.length = r.length := by
    unfold percent
    split
    · rw [List.length_singleton, List.length_cons, Nat.add_comm]
    · rw [List.length_nil, Nat.zero_add]
  have hspan (r : List Char) :
      (r.span isNameChar).1.length + (r.span isNameChar).2.length = r.length := by
    rw [List.span_eq_takeWhile_dropWhile, ← List.length_append, List.takeWhile_append_dropWhile]
  unfold ofChars? at h
  split at h
  · rename_i rest
    dsimp only at h
    split at h
    · rename_i hname hrest
      obtain rfl := Option.some.inj h
      have hbefore := hpercent rest
      have hname' := hspan (percent rest).2
      have hafter := hpercent ((percent rest).2.span isNameChar).2
      rw [hrest] at hafter
      simp only [length, List.length_append, List.length_cons] at *
      omega
    · simp at h
  · rename_i rest
    dsimp only at h
    split at h
    · rename_i hname hrest
      obtain rfl := Option.some.inj h
      have hname' := hspan rest
      rw [hrest] at hname'
      simp only [length, List.length_cons] at *
      omega
    · simp at h
  · simp at h

/-! ### Resolving parts of a text -/

/-- No reference reaches over a foreign character. -/
lemma resolveFrom_append (hx : isForeign x = true) {skip : Nat} (hskip : skip ≤ u.length) :
    resolveFrom d tablePrefix skip (u ++ x :: r) =
      resolveFrom d tablePrefix skip u ++ x :: resolveFrom d tablePrefix 0 r := by
  induction u generalizing skip with
  | nil =>
    obtain rfl : skip = 0 := Nat.le_zero.mp hskip
    have hnone : ofChars? (x :: r) = none := ofChars?_append (u := []) hx
    simp [resolveFrom, hnone]
  | cons c u ih =>
    cases skip with
    | succ skip => exact ih (Nat.le_of_succ_le_succ hskip)
    | zero =>
      rw [List.cons_append, resolveFrom, resolveFrom, ← List.cons_append, ofChars?_append hx]
      cases href : ofChars? (c :: u) with
      | none => exact congrArg (c :: ·) (ih (Nat.zero_le _))
      | some reference =>
        have hlength := length_le_of_ofChars? href
        rw [List.length_cons] at hlength
        dsimp only
        rw [ih (by omega), List.append_assoc]

/-- A text that is resolved as if it stood alone; with what stands before it, it makes no bracket of
a reference. -/
structure StandsAlone (d : Dialect) (tablePrefix : String) (cs : List Char) : Prop where
  start : ∃ c ∈ cs.head?, c ∉ openingBrackets
  resolve : ∀ r, resolveFrom d tablePrefix 0 (cs ++ r) =
    resolveFrom d tablePrefix 0 cs ++ resolveFrom d tablePrefix 0 r

/-- A text without an opening bracket stays as it is. -/
lemma resolveFrom_bare_append (h : ∀ c ∈ cs, c ∉ openingBrackets) (r : List Char) :
    resolveFrom d tablePrefix 0 (cs ++ r) = cs ++ resolveFrom d tablePrefix 0 r := by
  induction cs with
  | nil => rfl
  | cons c cs ih =>
    rw [List.forall_mem_cons] at h
    have hnone : ofChars? (c :: (cs ++ r)) = none := ofChars?_cons_eq_none fun hc => absurd hc h.1
    rw [List.cons_append, resolveFrom, hnone]
    exact congrArg (c :: ·) (ih h.2)

lemma resolveFrom_bare (h : ∀ c ∈ cs, c ∉ openingBrackets) :
    resolveFrom d tablePrefix 0 cs = cs := by
  have happend : resolveFrom d tablePrefix 0 (cs ++ []) =
      cs ++ resolveFrom d tablePrefix 0 [] := resolveFrom_bare_append h []
  rwa [resolveFrom, List.append_nil] at happend

/-- A text without opening brackets stands alone. -/
lemma standsAlone_of_bare (hne : cs ≠ []) (h : ∀ c ∈ cs, c ∉ openingBrackets) :
    StandsAlone d tablePrefix cs where
  start := by
    obtain ⟨c, cs, rfl⟩ := List.exists_cons_of_ne_nil hne
    exact ⟨c, rfl, h c List.mem_cons_self⟩
  resolve r := by rw [resolveFrom_bare_append h, resolveFrom_bare h]

/-- Between two foreign characters a text stands alone. -/
lemma standsAlone_of_foreign (hc : isForeign c = true) (hx : isForeign x = true) :
    StandsAlone d tablePrefix (c :: (u ++ [x])) where
  start := ⟨c, rfl, not_mem_openingBrackets hc⟩
  resolve r := by
    have hsplit (r : List Char) : resolveFrom d tablePrefix 0 (c :: u ++ x :: r) =
        resolveFrom d tablePrefix 0 (c :: u) ++ x :: resolveFrom d tablePrefix 0 r :=
      resolveFrom_append hx (Nat.zero_le _)
    have hassoc : c :: (u ++ [x]) ++ r = c :: u ++ x :: r := by simp
    rw [hassoc, hsplit, ← List.cons_append, hsplit, resolveFrom, List.append_assoc]
    rfl

end Reference

end SqlCompose
