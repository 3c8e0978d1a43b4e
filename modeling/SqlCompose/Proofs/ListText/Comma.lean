import Mathlib
import SqlCompose.Proofs.ListText.Part

/-!
# Lists put together

A comma outside of all parentheses divides a list. A list with such a comma has the parts of the
text before it and then those of the text behind it, whatever parentheses the two leave open or
close. So a part never has such a comma, and a list may be given in one call or in several.
-/

namespace SqlCompose

namespace ListText

variable {depth : ℕ} {c : Char} {s t : List Char}

/-! ### Depth -/

/-- The depth of parentheses behind a text. -/
def depthBehind (depth : ℕ) (s : List Char) : ℕ := s.foldl depthAfter depth

@[simp] lemma depthBehind_nil (depth : ℕ) : depthBehind depth [] = depth := rfl

@[simp] lemma depthBehind_cons (depth : ℕ) (c : Char) (s : List Char) :
    depthBehind depth (c :: s) = depthBehind (depthAfter depth c) s := rfl

@[simp] lemma depthBehind_append (depth : ℕ) (s t : List Char) :
    depthBehind depth (s ++ t) = depthBehind (depthBehind depth s) t := List.foldl_append

/-- No blank opens or closes a parenthesis. -/
lemma depthBehind_blanks (h : ∀ c ∈ s, isBlank c = true) : depthBehind depth s = depth := by
  induction s with
  | nil => rfl
  | cons c s ih =>
    rw [List.forall_mem_cons] at h
    have hc : depthAfter depth c = depth := by
      unfold depthAfter
      split_ifs with hopen hclose
      · exact absurd (hopen ▸ h.1) (by decide)
      · exact absurd (hclose ▸ h.1) (by decide)
      · rfl
    rw [depthBehind_cons, hc, ih h.2]

/-- No comma of a text stands outside of all parentheses, where `depth` are open at its start. -/
def IsUndivided (depth : ℕ) (s : List Char) : Prop :=
  ∀ before after, s = before ++ ',' :: after → depthBehind depth before ≠ 0

lemma isUndivided_nil : IsUndivided depth [] := by
  intro before after h
  simp at h

/-- The first character counts with its depth, the others with the depth behind it. -/
lemma isUndivided_cons_iff :
    IsUndivided depth (c :: s) ↔ ¬(c = ',' ∧ depth = 0) ∧ IsUndivided (depthAfter depth c) s := by
  constructor
  · intro h
    refine ⟨?_, fun before after hs => ?_⟩
    · rintro ⟨rfl, rfl⟩
      exact h [] s rfl rfl
    · exact h (c :: before) after (congrArg (c :: ·) hs)
  · rintro ⟨hc, hs⟩ before after h
    cases before with
    | nil =>
      obtain ⟨rfl, rfl⟩ := List.cons.inj h
      exact fun hdepth => hc ⟨rfl, hdepth⟩
    | cons c' before =>
      obtain ⟨rfl, htail⟩ := List.cons.inj h
      exact hs before after htail

/-- Trimming moves no comma out of its parentheses. -/
lemma IsUndivided.trim (h : IsUndivided depth s) : IsUndivided depth (Chars.trim s) := by
  intro before after htrim
  obtain ⟨start, tail, hs, hblanks⟩ := Chars.exists_eq_append_trim_append s
  have hcomma : s = (start ++ before) ++ ',' :: (after ++ tail) := by
    rw [hs, htrim]
    simp
  -- the blanks that are trimmed leave the depth as it is
  have hdepth := h _ _ hcomma
  rwa [depthBehind_append,
    depthBehind_blanks fun c hc => hblanks c (List.mem_append_left tail hc)] at hdepth

/-! ### Cutting -/

/-- A comma outside of all parentheses cuts a text, whatever stands behind it. -/
lemma cut_append_comma (h : depthBehind depth s = 0) (t : List Char) :
    cut depth (s ++ ',' :: t) = cut depth s ++ cut 0 t := by
  induction s generalizing depth with
  | nil =>
    obtain rfl : depth = 0 := h
    rw [List.nil_append, cut_comma]
    rfl
  | cons c s ih =>
    by_cases hcut : c = ',' ∧ depth = 0
    · obtain ⟨rfl, rfl⟩ := hcut
      have hs : depthBehind 0 s = 0 := h
      rw [List.cons_append, cut_comma, cut_comma, ih hs]
      rfl
    · obtain ⟨part, parts, hs⟩ := List.exists_cons_of_ne_nil (cut_ne_nil (depthAfter depth c) s)
      rw [List.cons_append, cut_cons hcut, cut_cons hcut, ih h, hs]
      rfl

/-- The first piece starts at the depth of the text, and the others start outside of all
parentheses. -/
lemma exists_cut (depth : ℕ) (s : List Char) :
    ∃ first others, cut depth s = first :: others ∧ IsUndivided depth first ∧
      ∀ piece ∈ others, IsUndivided 0 piece := by
  induction s generalizing depth with
  | nil => exact ⟨[], [], rfl, isUndivided_nil, by simp⟩
  | cons c s ih =>
    obtain ⟨first, others, hs, hfirst, hothers⟩ := ih (depthAfter depth c)
    by_cases hcut : c = ',' ∧ depth = 0
    · obtain ⟨rfl, rfl⟩ := hcut
      refine ⟨[], cut 0 s, cut_comma s, isUndivided_nil, ?_⟩
      have hcomma : depthAfter 0 ',' = 0 := rfl
      rw [hcomma] at hs hfirst
      rw [hs, List.forall_mem_cons]
      exact ⟨hfirst, hothers⟩
    · refine ⟨c :: first, others, ?_, isUndivided_cons_iff.mpr ⟨hcut, hfirst⟩, hothers⟩
      rw [cut_cons hcut, hs]
      rfl

/-- A text without a comma outside of all parentheses is one piece. -/
lemma IsUndivided.cut_eq (h : IsUndivided depth s) : cut depth s = [s] := by
  induction s generalizing depth with
  | nil => rfl
  | cons c s ih =>
    obtain ⟨hc, hs⟩ := isUndivided_cons_iff.mp h
    rw [cut_cons hc, ih hs]
    rfl

/-! ### Parts -/

/-- A text that is a part of a list by itself, closed or not. -/
structure IsEntry (part : String) : Prop where
  ne_empty : part ≠ ""
  trimmed : Text.trim part = part
  undivided : IsUndivided 0 part.toList

/-- No piece can be cut further. -/
lemma isUndivided_of_mem_cut {piece : List Char} (h : piece ∈ cut 0 s) : IsUndivided 0 piece := by
  obtain ⟨first, others, hs, hfirst, hothers⟩ := exists_cut 0 s
  rw [hs, List.mem_cons] at h
  rcases h with rfl | h
  · exact hfirst
  · exact hothers piece h

/-- Every part of a list is one by itself. -/
lemma isEntry_of_mem_parts {list part : String} (h : part ∈ parts list) : IsEntry part := by
  simp only [parts, List.mem_map, List.mem_filter] at h
  obtain ⟨_, ⟨⟨piece, hpiece, rfl⟩, hne⟩, rfl⟩ := h
  refine ⟨?_, ?_, ?_⟩
  · simpa using hne
  · rw [Text.trim, String.toList_ofList, Chars.trim_trim]
  · rw [String.toList_ofList]
    exact (isUndivided_of_mem_cut hpiece).trim

/-- A text without a comma outside of all parentheses is a list of one part, or of none if it is
blank. -/
lemma parts_of_isUndivided {text : String} (h : IsUndivided 0 text.toList) :
    parts text = if Text.trim text = "" then [] else [Text.trim text] := by
  rw [parts, h.cut_eq, List.map_singleton, Text.trim]
  cases Chars.trim text.toList with
  | nil => rfl
  | cons c s => simp

/-- At a comma outside of all parentheses a list is cut in two. -/
lemma parts_append {a : String} (h : depthBehind 0 a.toList = 0) (b : String) :
    parts (a ++ "," ++ b) = parts a ++ parts b := by
  have hchars : (a ++ "," ++ b).toList = a.toList ++ ',' :: b.toList := by simp
  simp only [parts, hchars, cut_append_comma h, List.map_append, List.filter_append]

/-- Two lists with a comma between them are one list, if the first one leaves no parenthesis open.
A text that no comma divides is the only part of itself, and each part of a list is such a text. So
what is selected, grouped by or ordered by may be given at once or in two calls. -/
theorem parts_append_comma {a : String} (h : depthBehind 0 a.toList = 0) (b : String) :
    parts (a ++ "," ++ b) = parts a ++ parts b ∧
    (∀ list, ∀ part ∈ parts list, IsEntry part) ∧
    (∀ text : String, IsUndivided 0 text.toList →
      parts text = if Text.trim text = "" then [] else [Text.trim text]) ∧
    ∀ q : Query,
      q.selectText (a ++ "," ++ b) = (q.selectText a).addSelect b ∧
      q.groupByText (a ++ "," ++ b) = (q.groupByText a).addGroupBy b ∧
      q.orderByText (a ++ "," ++ b) = (q.orderByText a).addOrderBy b := by
  refine ⟨parts_append h b, fun _ _ => isEntry_of_mem_parts, fun _ => parts_of_isUndivided,
    fun q => ⟨?_, ?_, ?_⟩⟩
  · rw [Query.selectText, parts_append h, List.map_append]
    rfl
  · rw [Query.groupByText, parts_append h, List.map_append]
    rfl
  · rw [Query.orderByText, Query.addOrderBy, parts_append h, List.foldl_append]
    rfl

/-- A parenthesis that closes nothing, a blank part, and one that is left open. -/
theorem parts_append_comma_unbalanced :
    depthBehind 0 "f(x, y) z), ".toList = 0 ∧
    parts ("f(x, y) z), " ++ "," ++ " g(a, b") = ["f(x, y) z)", "g(a, b"] ∧
    (Query.empty.orderByText ("f(x, y) z), " ++ "," ++ " g(a, b")).orderBy =
      [.column "f(x, y) z)" .asc, .column "g(a, b" .asc] := by
  have hclosed : depthBehind 0 "f(x, y) z), ".toList = 0 := by decide
  obtain ⟨hparts, -, -, hquery⟩ := parts_append_comma hclosed " g(a, b"
  refine ⟨hclosed, hparts.trans (by decide +kernel), ?_⟩
  rw [(hquery Query.empty).2.2]
  decide +kernel

end ListText

end SqlCompose
