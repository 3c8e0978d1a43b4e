import Mathlib
import SqlCompose.Built.Positional
import SqlCompose.Proofs.Text.Split

/-!
# Replacing tokens

A token is a colon with characters of a name after it. As no other character of it is a colon, a
token stands in the one or the other of two texts that meet at a character of another kind, so it is
replaced in each of them. A replacement that does not start with a colon leaves its trace: the text
goes on without a colon where it had one, and no further replacement puts the colon back.
-/

namespace SqlCompose

/-- A colon and the characters of a name after it. -/
def IsToken (s : List Char) : Prop :=
  ∃ name, s = ':' :: name ∧ ∀ c ∈ name, SqlToken.isNameChar c = true

/-- Whether a character can stand in a token. -/
def isTokenPart (c : Char) : Bool := c == ':' || SqlToken.isNameChar c

lemma isNameChar_eq_false_of_isTokenPart {c : Char} (h : isTokenPart c = false) :
    SqlToken.isNameChar c = false := (Bool.or_eq_false_iff.mp h).2

/-- A text that starts with something else than a colon. -/
def StartsBare (s : List Char) : Prop := ∃ c rest, s = c :: rest ∧ c ≠ ':'

namespace IsToken

variable {n : List Char} {c : Char}

lemma ne_nil (h : IsToken n) : n ≠ [] := by
  obtain ⟨name, rfl, -⟩ := h
  exact List.cons_ne_nil _ _

/-- A token consists of a colon and the characters of names. -/
lemma isTokenPart_of_mem (h : IsToken n) (hc : c ∈ n) : isTokenPart c = true := by
  obtain ⟨name, rfl, hname⟩ := h
  rcases List.mem_cons.mp hc with rfl | hc
  · rfl
  · simp [isTokenPart, hname c hc]

lemma isNameChar_of_mem_tail (h : IsToken n) (hc : c ∈ n.tail) :
    SqlToken.isNameChar c = true := by
  obtain ⟨name, rfl, hname⟩ := h
  exact hname c hc

end IsToken

/-- Two texts that meet at a character that no token reaches over. -/
def Apart (a b : List Char) : Prop :=
  (∀ c ∈ a.getLast?, isTokenPart c = false) ∨ ∀ c ∈ b.head?, SqlToken.isNameChar c = false

/-- A token at the start of two such texts stands in the first. -/
lemma Apart.prefix_left {a b n : List Char} (h : Apart a b) (hn : IsToken n) (ha : a ≠ [])
    (hstart : n <+: a ++ b) : n <+: a := by
  by_contra hnot
  obtain ⟨rest, rfl⟩ : a <+: n := by
    rcases List.prefix_or_prefix_of_prefix hstart (List.prefix_append a b) with h | h
    · exact absurd h hnot
    · exact h
  have hrest : rest ≠ [] := by
    rintro rfl
    exact hnot (by rw [List.append_nil])
  obtain ⟨x, rest, rfl⟩ := List.exists_cons_of_ne_nil hrest
  obtain ⟨b, rfl⟩ : ∃ b', b = x :: b' := by
    obtain ⟨t, ht⟩ := hstart
    rw [List.append_assoc, List.append_cancel_left_eq] at ht
    exact ⟨_, ht.symm⟩
  obtain ⟨y, a, rfl⟩ := List.exists_cons_of_ne_nil ha
  rcases h with hlast | hhead
  · have hmem := List.getLast_mem (List.cons_ne_nil y a)
    have htoken := hn.isTokenPart_of_mem (List.mem_append_left (x :: rest) hmem)
    rw [hlast _ (List.getLast?_eq_some_getLast _)] at htoken
    cases htoken
  · have hname : SqlToken.isNameChar x = true := hn.isNameChar_of_mem_tail (by simp)
    rw [hhead x rfl] at hname
    cases hname

namespace Chars

variable {n p r s : List Char} {c : Char}

/-! ### Where a pattern is replaced -/

/-- A token is replaced in each of two texts that meet between tokens. -/
lemma replace_append (hn : IsToken n) {a b : List Char} (h : Apart a b) :
    replace n r (a ++ b) = replace n r a ++ replace n r b := by
  induction a using replace_induction hn.ne_nil with
  | nil => rfl
  | place a ih =>
    have hrest : Apart a b := by
      refine h.imp_left fun hlast c hc => hlast c ?_
      rw [List.getLast?_append, hc]
      rfl
    rw [List.append_assoc, replace_append_self hn.ne_nil, replace_append_self hn.ne_nil, ih hrest,
      List.append_assoc]
  | other c a hstart ih =>
    have hrest : Apart a b := by
      refine h.imp_left fun hlast x hx => hlast x ?_
      rw [List.getLast?_cons, hx]
      rfl
    have hwhole : ¬n <+: c :: (a ++ b) := fun hwhole =>
      hstart (h.prefix_left hn (List.cons_ne_nil c a) hwhole)
    rw [List.cons_append, replace_cons r hwhole, replace_cons r hstart, ih hrest,
      List.cons_append]

/-! ### Traces -/

/-- The first text has a colon where the second goes on with something else. -/
def Diverges (s t : List Char) : Prop :=
  ∃ before rest c rest', s = before ++ ':' :: rest ∧ t = before ++ c :: rest' ∧ c ≠ ':'

namespace Diverges

variable {s t : List Char}

lemma ne (h : Diverges s t) : s ≠ t := by
  obtain ⟨before, rest, c, rest', rfl, rfl, hc⟩ := h
  simpa using fun heq _ => hc heq.symm

lemma append (h : Diverges s t) (a b : List Char) : Diverges (s ++ a) (t ++ b) := by
  obtain ⟨before, rest, c, rest', rfl, rfl, hc⟩ := h
  exact ⟨before, rest ++ a, c, rest' ++ b, by simp, by simp, hc⟩

lemma append_left (h : Diverges s t) (a : List Char) : Diverges (a ++ s) (a ++ t) := by
  obtain ⟨before, rest, c, rest', rfl, rfl, hc⟩ := h
  exact ⟨a ++ before, rest, c, rest', by simp, by simp, hc⟩

/-- A trace stays when further tokens are replaced. -/
lemma replace (h : Diverges s t) (hn : IsToken n) (hr : StartsBare r) :
    Diverges s (Chars.replace n r t) := by
  obtain ⟨x, r, rfl, hx⟩ := hr
  induction t using replace_induction hn.ne_nil generalizing s with
  | nil =>
    obtain ⟨before, rest, c, rest', -, ht, -⟩ := h
    simp at ht
  | place t ih =>
    obtain ⟨before, rest, c, rest', rfl, ht, hc⟩ := h
    rw [replace_append_self hn.ne_nil]
    obtain ⟨name, rfl, -⟩ := hn
    cases before with
    | nil => exact absurd (List.cons.inj ht).1.symm hc
    | cons y before =>
      obtain rfl : ':' = y := (List.cons.inj ht).1
      exact ⟨[], _, x, _, rfl, rfl, hx⟩
  | other y t hstart ih =>
    obtain ⟨before, rest, c, rest', rfl, ht, hc⟩ := h
    rw [replace_cons _ hstart]
    cases before with
    | nil =>
      obtain rfl : y = c := (List.cons.inj ht).1
      exact ⟨[], rest, y, _, rfl, rfl, hc⟩
    | cons z before =>
      obtain ⟨rfl, rfl⟩ := List.cons.inj ht
      exact (ih ⟨before, rest, c, rest', rfl, rfl, hc⟩).append_left [y]

end Diverges

/-- Replacing a token leaves a trace where the token stands first. -/
lemma diverges_replace (hn : IsToken n) (hr : StartsBare r) (h : n <:+: s) :
    Diverges s (replace n r s) := by
  obtain ⟨x, r, rfl, hx⟩ := hr
  induction s using replace_induction hn.ne_nil with
  | nil => exact absurd (List.infix_nil.mp h) hn.ne_nil
  | place s ih =>
    rw [replace_append_self hn.ne_nil]
    obtain ⟨name, rfl, -⟩ := hn
    exact ⟨[], _, x, _, rfl, rfl, hx⟩
  | other c s hstart ih =>
    rw [replace_cons _ hstart]
    exact (ih ((List.infix_cons_iff.mp h).resolve_left hstart)).append_left [c]

end Chars

end SqlCompose
