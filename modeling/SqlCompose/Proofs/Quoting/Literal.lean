import Mathlib
import SqlCompose.Dialect.Quoting

/-!
# Reading a quoted text

What stands up to a closing quote, as an engine reads it: a closing quote that is written twice
stands for one, and two characters of which the first escapes the second stand for what the engine
takes them for. A text that is quoted as a string literal is read back as it was, and the reading
ends at the last character of the literal, unless another quote follows it at once.
-/

namespace SqlCompose

/-- What stands before the closing quote of a text, and what comes after it. -/
def unquote? (closing : Char) (escaped : Char → Char → Option (List Char)) :
    List Char → Option (List Char × List Char)
  | [] => none
  | [c] => if c = closing then some ([], []) else none
  | c :: c' :: rest =>
    if c = closing then
      if c' = closing then (unquote? closing escaped rest).map (Prod.map (closing :: ·) id)
      else some ([], c' :: rest)
    else match escaped c c' with
      | some cs => (unquote? closing escaped rest).map (Prod.map (cs ++ ·) id)
      | none => (unquote? closing escaped (c' :: rest)).map (Prod.map (c :: ·) id)

section Quoted

variable {closing c c' : Char} {escaped : Char → Char → Option (List Char)}
  {cs rest : List Char}

/-- A closing quote that stands twice is one character of the text. -/
lemma unquote?_closing_twice (rest : List Char) :
    unquote? closing escaped (closing :: closing :: rest) =
      (unquote? closing escaped rest).map (Prod.map (closing :: ·) id) := by
  simp [unquote?]

/-- A closing quote that stands once ends the text. -/
lemma unquote?_closing (h : rest.head? ≠ some closing) :
    unquote? closing escaped (closing :: rest) = some ([], rest) := by
  cases rest with
  | nil => simp [unquote?]
  | cons c rest =>
    have hc : c ≠ closing := fun hc => h (congrArg some hc)
    simp [unquote?, hc]

/-- Escaped characters are read as what they stand for. -/
lemma unquote?_escaped (hc : c ≠ closing) (h : escaped c c' = some cs) (rest : List Char) :
    unquote? closing escaped (c :: c' :: rest) =
      (unquote? closing escaped rest).map (Prod.map (cs ++ ·) id) := by
  simp [unquote?, hc, h]

lemma unquote?_cons (hc : c ≠ closing) (h : ∀ c', escaped c c' = none) (rest : List Char) :
    unquote? closing escaped (c :: rest) =
      (unquote? closing escaped rest).map (Prod.map (c :: ·) id) := by
  cases rest with
  | nil => simp [unquote?, hc]
  | cons c' rest => simp [unquote?, hc, h]

/-- If each character is read back from what is written for it, so are all of them. -/
lemma unquote?_flatMap {write : Char → List Char}
    (h : ∀ c rest, unquote? closing escaped (write c ++ rest) =
      (unquote? closing escaped rest).map (Prod.map (c :: ·) id)) (cs rest : List Char) :
    unquote? closing escaped (cs.flatMap write ++ rest) =
      (unquote? closing escaped rest).map (Prod.map (cs ++ ·) id) := by
  induction cs with
  | nil =>
    have hid : Prod.map (([] : List Char) ++ ·) (id : List Char → List Char) = id := rfl
    rw [List.flatMap_nil, List.nil_append, hid, Option.map_id_apply]
  | cons c cs ih =>
    rw [List.flatMap_cons, List.append_assoc, h, ih, Option.map_map]
    rfl

end Quoted

/-! ### String literals -/

namespace Dialect

/-- What two characters stand for in a string literal. MySQL and CUBRID read a backslash together
with the character after it, to the others it is a character like any other. -/
def escaped (d : Dialect) (meaning : Char → List Char) (c c' : Char) : Option (List Char) :=
  if c = '\\' ∧ (d = .mysql ∨ d = .cubrid) then some (meaning c') else none

/-- The text of the string literal that a text starts with, and what comes after the literal. -/
def readLiteral? (d : Dialect) (meaning : Char → List Char) :
    List Char → Option (List Char × List Char)
  | '\'' :: rest => unquote? '\'' (d.escaped meaning) rest
  | _ => none

variable {d : Dialect} {meaning : Char → List Char}

lemma escapesBackslash_iff : d.escapesBackslash = true ↔ d = .mysql ∨ d = .cubrid := by
  cases d <;> decide

/-- A character is read back from what is written for it. -/
lemma unquote?_literalChar (hmeaning : meaning '\\' = ['\\']) (c : Char) (rest : List Char) :
    unquote? '\'' (d.escaped meaning) (d.literalChar c ++ rest) =
      (unquote? '\'' (d.escaped meaning) rest).map (Prod.map (c :: ·) id) := by
  unfold literalChar
  split_ifs with hquote hslash
  · subst hquote
    exact unquote?_closing_twice rest
  · obtain ⟨rfl, hescapes⟩ := hslash
    have hpair : d.escaped meaning '\\' '\\' = some ['\\'] := by
      rw [escaped, if_pos ⟨rfl, escapesBackslash_iff.mp hescapes⟩, hmeaning]
    exact unquote?_escaped hquote hpair rest
  · rw [escapesBackslash_iff] at hslash
    exact unquote?_cons hquote (fun c' => if_neg hslash) rest

/-- Whatever the other escapes stand for, a text that is quoted as a literal is read back as it was,
and what comes after the literal is left, exactly if no quote follows at once. -/
theorem quoteText_read_iff (hmeaning : meaning '\\' = ['\\']) (v s : String) :
    d.readLiteral? meaning (d.quoteText v ++ s).toList = some (v.toList, s.toList) ↔
      s.toList.head? ≠ some '\'' := by
  have htext : (d.quoteText v ++ s).toList =
      '\'' :: (v.toList.flatMap d.literalChar ++ '\'' :: s.toList) := by
    simp [quoteText]
  rw [htext, readLiteral?, unquote?_flatMap (unquote?_literalChar hmeaning)]
  refine ⟨fun h hhead => ?_, fun h => ?_⟩
  · -- The quote after the literal is read as a second one, so more than the text is read.
    obtain ⟨rest, hrest⟩ := List.head?_eq_some_iff.mp hhead
    rw [hrest, unquote?_closing_twice, Option.map_map] at h
    obtain ⟨read, -, hread⟩ := Option.map_eq_some_iff.mp h
    simpa using congrArg Prod.fst hread
  · rw [unquote?_closing h]
    simp

/-- A quote after a backslash neither ends the literal nor is lost. -/
theorem quoteText_read_iff_escapedQuote :
    let meaning (c : Char) : List Char := if c = 'n' then ['\n'] else [c]
    meaning '\\' = ['\\'] ∧ mysql.quoteText "a\\' OR 1=1 -- \\" = "'a\\\\'' OR 1=1 -- \\\\'" ∧
      mysql.readLiteral? meaning (mysql.quoteText "a\\' OR 1=1 -- \\" ++ " LIMIT 1").toList =
        some ("a\\' OR 1=1 -- \\".toList, " LIMIT 1".toList) := by
  intro meaning
  exact ⟨by decide, by decide +kernel,
    (quoteText_read_iff (by decide) _ _).mpr (by decide)⟩

end Dialect

end SqlCompose
