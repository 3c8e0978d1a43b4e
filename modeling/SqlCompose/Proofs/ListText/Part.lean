import Mathlib
import SqlCompose.Proofs.ListText.Table

/-!
# The parts of a list

Texts that are joined with commas are the parts of the list again if none of them is empty or has
blanks at its ends, their parentheses are closed, and their commas stand between parentheses. A part
may end with a word of its own after a space.
-/

namespace SqlCompose

namespace Chars

variable {p : Char → Bool} {s t : List Char}

/-- A text is split where its first character of another kind stands. -/
lemma span_append_cons {c : Char} (hs : ∀ x ∈ s, p x = true) (hc : p c = false) (t : List Char) :
    (s ++ c :: t).span p = (s, c :: t) := by
  rw [List.span_eq_takeWhile_dropWhile, List.takeWhile_append_of_pos hs,
    List.dropWhile_append_of_pos hs, List.takeWhile_cons_of_neg (by simp [hc]),
    List.dropWhile_cons_of_neg (by simp [hc]), List.append_nil]

end Chars

namespace ListText

variable {commas : Bool} {depth : ℕ} {c : Char} {s t word : List Char}

/-! ### Parentheses and commas -/

/-- A text in which all parentheses are closed. Commas stand between parentheses only, unless
`commas` are free. -/
inductive IsClosed : (commas : Bool) → List Char → Prop
  | nil {commas : Bool} : IsClosed commas []
  | char {commas : Bool} {c : Char} {s : List Char} (hopen : c ≠ '(') (hclose : c ≠ ')')
      (hcomma : c = ',' → commas = true) (h : IsClosed commas s) : IsClosed commas (c :: s)
  | parens {commas : Bool} {inner s : List Char} (hinner : IsClosed true inner)
      (h : IsClosed commas s) : IsClosed commas ('(' :: (inner ++ ')' :: s))

lemma IsClosed.append (hs : IsClosed commas s) (ht : IsClosed commas t) :
    IsClosed commas (s ++ t) := by
  induction hs with
  | nil => exact ht
  | char hopen hclose hcomma _ ih => exact .char hopen hclose hcomma (ih ht)
  | parens hinner _ _ ih =>
    rw [List.cons_append, List.append_assoc]
    exact .parens hinner (ih ht)

/-- A text without parentheses and commas. -/
lemma isClosed_of_all (h : s.all (· ∉ ['(', ')', ',']) = true) : IsClosed commas s := by
  induction s with
  | nil => exact .nil
  | cons c s ih =>
    rw [List.all_cons, Bool.and_eq_true, decide_eq_true_eq] at h
    obtain ⟨hc, hs⟩ := h
    simp only [List.mem_cons, List.not_mem_nil, or_false, not_or] at hc
    exact .char hc.1 hc.2.1 (fun hcomma => absurd hcomma hc.2.2) (ih hs)

/-! ### Cutting -/

lemma cut_ne_nil (depth : ℕ) (s : List Char) : cut depth s ≠ [] := by
  cases s with
  | nil => simp [cut]
  | cons c s =>
    rw [cut]
    split
    · simp
    · split <;> simp

/-- At a character that is no dividing comma, nothing is cut. -/
lemma cut_cons (h : ¬(c = ',' ∧ depth = 0)) (s : List Char) :
    cut depth (c :: s) = (cut (depthAfter depth c) s).modifyHead (c :: ·) := by
  obtain ⟨part, parts, hcut⟩ := List.exists_cons_of_ne_nil (cut_ne_nil (depthAfter depth c) s)
  rw [cut, if_neg h, hcut]
  rfl

lemma cut_comma (s : List Char) : cut 0 (',' :: s) = [] :: cut 0 s := by
  rw [cut.eq_def]
  exact if_pos ⟨rfl, rfl⟩

/-- A text with closed parentheses goes into one part as a whole, and leaves the depth as it is. -/
lemma cut_append (hs : IsClosed commas s) (hdepth : commas = true → depth ≠ 0) (t : List Char) :
    cut depth (s ++ t) = (cut depth t).modifyHead (s ++ ·) := by
  induction hs generalizing depth t with
  | nil =>
    obtain ⟨part, parts, hcut⟩ := List.exists_cons_of_ne_nil (cut_ne_nil depth t)
    rw [List.nil_append, hcut]
    rfl
  | @char _ c _ hopen hclose hcomma _ ih =>
    have hc : depthAfter depth c = depth := by rw [depthAfter, if_neg hopen, if_neg hclose]
    rw [List.cons_append, cut_cons (fun h => hdepth (hcomma h.1) h.2), hc, ih hdepth,
      List.modifyHead_modifyHead]
    rfl
  | parens _ _ ihinner ih =>
    have hopen : depthAfter depth '(' = depth + 1 := by rw [depthAfter, if_pos rfl]
    have hclose : depthAfter (depth + 1) ')' = depth := by simp [depthAfter]
    rw [List.cons_append, cut_cons (fun h => absurd h.1 (by decide)), hopen, List.append_assoc,
      ihinner (fun _ => Nat.succ_ne_zero depth), List.cons_append,
      cut_cons (fun h => absurd h.1 (by decide)), hclose, ih hdepth]
    simp only [List.modifyHead_modifyHead]
    congr 1
    funext part
    simp

/-- A text that is a part of a list as it is. -/
structure IsPart (s : List Char) : Prop where
  ne_nil : s ≠ []
  trimmed : Chars.trim s = s
  closed : IsClosed false s

lemma IsPart.isBlank_head? (h : IsPart s) : ∀ c ∈ s.head?, isBlank c = false := by
  rw [← h.trimmed]
  exact Chars.isBlank_head?_trim s

/-- A part ends visibly. -/
lemma IsPart.isBlank_getLast? (h : IsPart s) : ∀ c ∈ s.getLast?, isBlank c = false := by
  rw [← h.trimmed]
  exact Chars.isBlank_getLast?_trimEnd _

/-- A list that is joined with commas and blanks is cut back into its parts. -/
lemma map_trim_cut_intercalate {texts : List (List Char)} (h : ∀ s ∈ texts, IsPart s)
    (hne : texts ≠ []) : (cut 0 ([',', ' '].intercalate texts)).map Chars.trim = texts := by
  induction texts with
  | nil => exact absurd rfl hne
  | cons s texts ih =>
    rw [List.forall_mem_cons] at h
    cases texts with
    | nil =>
      have hcut : cut 0 s = [s] := by
        have happend : cut 0 (s ++ []) = _ := cut_append h.1.closed (by simp) []
        simpa [cut] using happend
      rw [List.intercalate_singleton, hcut, List.map_singleton, h.1.trimmed]
    | cons t texts =>
      have hspace (rest : List Char) :
          cut 0 (' ' :: rest) = (cut 0 rest).modifyHead (' ' :: ·) :=
        cut_cons (by simp) rest
      -- the space after the comma goes into the next part, and is trimmed with it
      have hblank (parts : List (List Char)) :
          (parts.modifyHead (' ' :: ·)).map Chars.trim = parts.map Chars.trim := by
        cases parts with
        | nil => rfl
        | cons part parts =>
          rw [List.modifyHead_cons, List.map_cons, List.map_cons,
            Chars.trim_blank_cons (by decide)]
      rw [List.intercalate_cons_cons, List.append_assoc, cut_append h.1.closed (by simp),
        List.cons_append, cut_comma, List.modifyHead_cons, List.append_nil, List.map_cons,
        h.1.trimmed, List.singleton_append, hspace, hblank, ih h.2 (List.cons_ne_nil t texts)]

/-- The parts of a list are the texts that were put into it. -/
lemma parts_join {texts : List String} (h : ∀ s ∈ texts, IsPart s.toList) :
    parts (Text.join ", " texts) = texts := by
  have hparts : ∀ s ∈ texts.map String.toList, IsPart s := by simpa using h
  have hjoin : (Text.join ", " texts).toList = [',', ' '].intercalate (texts.map String.toList) :=
    String.toList_intercalate
  rw [parts, hjoin]
  cases texts with
  | nil => rfl
  | cons s texts =>
    have hfilter : ((s :: texts).map String.toList).filter (!·.isEmpty) =
        (s :: texts).map String.toList := by
      rw [List.filter_eq_self]
      intro t ht
      simp [(hparts t ht).ne_nil]
    rw [map_trim_cut_intercalate hparts (by simp), hfilter, List.map_map]
    exact List.map_id'' (fun _ => String.ofList_toList) _

/-! ### Last words -/

/-- A word without blanks, parentheses and commas. -/
structure IsWord (word : List Char) : Prop where
  ne_nil : word ≠ []
  noBlank : ∀ c ∈ word, isBlank c = false
  noMark : ∀ c ∈ word, c ∉ ['(', ')', ',']

/-- A part stays one if a word is put behind it. -/
lemma IsPart.append_word (h : IsPart s) (hword : IsWord word) : IsPart (s ++ ' ' :: word) := by
  have htail : IsClosed false (' ' :: word) := by
    apply isClosed_of_all
    rw [List.all_cons, Bool.and_eq_true, List.all_eq_true]
    exact ⟨by decide, fun c hc => decide_eq_true (hword.noMark c hc)⟩
  refine ⟨by simp, Chars.trim_eq_self ?_ ?_, h.closed.append htail⟩
  · rw [List.head?_append_of_ne_nil _ h.ne_nil]
    exact h.isBlank_head?
  · rw [List.getLast?_append_of_ne_nil _ (by simp), List.getLast?_cons_of_ne_nil hword.ne_nil]
    exact fun c hc => hword.noBlank c (List.mem_of_getLast? hc)

/-- The word that was put behind a part is split off again. -/
lemma IsPart.splitLastWord?_append (h : IsPart s) (hword : IsWord word) :
    splitLastWord? (s ++ ' ' :: word) = some (s, word) := by
  have hspace : isBlank ' ' = true := by decide
  have hspan : (s ++ ' ' :: word).reverse.span (!isBlank ·) =
      (word.reverse, ' ' :: s.reverse) := by
    have hreverse : (s ++ ' ' :: word).reverse = word.reverse ++ ' ' :: s.reverse := by
      simp
    rw [hreverse]
    exact Chars.span_append_cons (by simpa using hword.noBlank) (by simp [hspace]) _
  have hrest : s.reverse.dropWhile isBlank = s.reverse :=
    Chars.trimStart_eq_self (by rw [List.head?_reverse]; exact h.isBlank_getLast?)
  simp only [splitLastWord?, hspan, List.dropWhile_cons_of_pos hspace, hrest]
  simp

lemma splitLastWord?_eq_none (h : ∀ c ∈ s, isBlank c = false) : splitLastWord? s = none := by
  have hrest : (s.reverse.dropWhile (!isBlank ·)) = [] := by
    rw [List.dropWhile_eq_nil_iff]
    intro c hc
    simp [h c (List.mem_reverse.mp hc)]
  simp [splitLastWord?, List.span_eq_takeWhile_dropWhile, hrest]

end ListText

end SqlCompose
