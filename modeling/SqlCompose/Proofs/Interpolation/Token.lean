import Mathlib
import SqlCompose.Proofs.Interpolation.Replace

/-!
# Replacing tokens in turn and at once

The tokens of a text can be replaced at once, each by its own text, or one token after the other in
what the replacements before have left. Where the tokens stand whole and none is the start of a
later one, the second way puts for each token its own text as the later replacements leave it. So
the two ways agree exactly if no later token stands in the text that is put for an earlier one.
-/

namespace SqlCompose

/-! ### At once -/

/-- What is put for the token of a segment that stands after a colon, and the rest of it. -/
def interpolateSegment (text? : List Char → Option (List Char)) (segment : List Char) : List Char :=
  let token := ':' :: segment.takeWhile SqlToken.isNameChar
  (text? token).getD token ++ segment.dropWhile SqlToken.isNameChar

/-- A text with all tokens replaced at once; a token for which there is no text stays. -/
def interpolate (text? : List Char → Option (List Char)) (s : List Char) : List Char :=
  match Chars.split ':' s with
  | [] => []
  | lead :: segments => lead ++ segments.flatMap (interpolateSegment text?)

/-- The tokens of a text, from left to right. -/
def tokensOf (s : List Char) : List (List Char) :=
  (Chars.split ':' s).tail.map fun segment => ':' :: segment.takeWhile SqlToken.isNameChar

section

variable {text? : List Char → Option (List Char)} {s segment : List Char}

lemma interpolate_congr {text?' : List Char → Option (List Char)}
    (h : ∀ name, text? (':' :: name) = text?' (':' :: name)) :
    interpolate text? s = interpolate text?' s := by
  have hsegment : interpolateSegment text? = interpolateSegment text?' := by
    funext segment
    rw [interpolateSegment, interpolateSegment, h]
  rw [interpolate, interpolate, hsegment]

lemma interpolate_of_not_mem (h : ':' ∉ s) : interpolate text? s = s := by
  rw [interpolate, Chars.split_eq_splitOn, List.splitOn_eq_singleton h]
  simp

lemma tokensOf_of_not_mem (h : ':' ∉ s) : tokensOf s = [] := by
  rw [tokensOf, Chars.split_eq_splitOn, List.splitOn_eq_singleton h]
  rfl

lemma splitOn_append_segment (h : ':' ∉ segment) (s : List Char) :
    (s ++ ':' :: segment).splitOn ':' = s.splitOn ':' ++ [segment] := by
  rw [List.splitOn_append_cons_self, List.splitOn_eq_singleton h]

/-- A text is interpolated up to its last colon, and then behind it. -/
lemma interpolate_append (h : ':' ∉ segment) (s : List Char) :
    interpolate text? (s ++ ':' :: segment) =
      interpolate text? s ++ interpolateSegment text? segment := by
  rw [interpolate, interpolate, Chars.split_eq_splitOn, Chars.split_eq_splitOn,
    splitOn_append_segment h]
  obtain ⟨lead, segments, hs⟩ := List.exists_cons_of_ne_nil (List.splitOn_ne_nil ':' s)
  rw [hs]
  simp

lemma tokensOf_append (h : ':' ∉ segment) (s : List Char) :
    tokensOf (s ++ ':' :: segment) =
      tokensOf s ++ [':' :: segment.takeWhile SqlToken.isNameChar] := by
  rw [tokensOf, tokensOf, Chars.split_eq_splitOn, Chars.split_eq_splitOn,
    splitOn_append_segment h]
  obtain ⟨lead, segments, hs⟩ := List.exists_cons_of_ne_nil (List.splitOn_ne_nil ':' s)
  rw [hs]
  simp

/-- A text without colons, or a text with a last segment after it. -/
lemma segment_induction {motive : List Char → Prop} (lead : ∀ s, ':' ∉ s → motive s)
    (segment : ∀ s segment, ':' ∉ segment → motive s → motive (s ++ ':' :: segment))
    (s : List Char) : motive s := by
  induction hlength : s.length using Nat.strong_induction_on generalizing s with
  | _ length ih =>
    subst hlength
    by_cases hcolon : ':' ∈ s
    · obtain ⟨before, rest, rfl, hrest⟩ := Chars.exists_last_of_mem hcolon
      refine segment before rest hrest (ih _ ?_ before rfl)
      rw [List.length_append, List.length_cons]
      omega
    · exact lead s hcolon

end

/-! ### In turn -/

/-- A token and the text that is put for it. -/
structure Replacement where
  token : List Char
  text : List Char

/-- The text of a replacement does not start as a token does. -/
structure Replacement.IsProper (step : Replacement) : Prop where
  token : IsToken step.token
  text : StartsBare step.text

/-- Replace tokens one after the other. -/
def replaceEach (steps : List Replacement) (s : List Char) : List Char :=
  steps.foldl (fun s step => Chars.replace step.token step.text s) s

/-- The text that is put for a token. -/
def textFor? : List Replacement → List Char → Option (List Char)
  | [], _ => none
  | step :: later, token => if step.token = token then some step.text else textFor? later token

/-- The text that is put for a token, as the later replacements leave it. -/
def resultFor? : List Replacement → List Char → Option (List Char)
  | [], _ => none
  | step :: later, token =>
    if step.token = token then some (replaceEach later step.text) else resultFor? later token

section

variable {steps : List Replacement} {a b s : List Char}

/-- A replacement leaves the end of a text as it is, if no token reaches over it. -/
lemma getLast?_replace {step : Replacement} (hstep : step.IsProper)
    (h : ∀ c ∈ a.getLast?, isTokenPart c = false) :
    (Chars.replace step.token step.text a).getLast? = a.getLast? := by
  rcases List.eq_nil_or_concat a with rfl | ⟨a, c, rfl⟩
  · rfl
  · rw [List.concat_eq_append] at h ⊢
    have hc : isTokenPart c = false := h c (by simp)
    have hsingle : ¬step.token <:+: [c] := by
      intro hwithin
      obtain ⟨name, htoken, -⟩ := hstep.token
      have hcolon : ':' ∈ [c] := hwithin.subset (htoken ▸ List.mem_cons_self)
      obtain rfl := List.mem_singleton.mp hcolon
      cases hc
    have hapart : Apart a [c] := by
      refine .inr fun x hx => ?_
      obtain rfl := Option.some.inj hx
      exact isNameChar_eq_false_of_isTokenPart hc
    rw [Chars.replace_append hstep.token hapart, Chars.replace_of_absent _ hsingle,
      List.getLast?_concat, List.getLast?_concat]

/-- Texts of which the first ends with no character of a token are replaced apart. -/
lemma replaceEach_append (hsteps : ∀ step ∈ steps, step.IsProper)
    (h : ∀ c ∈ a.getLast?, isTokenPart c = false) :
    replaceEach steps (a ++ b) = replaceEach steps a ++ replaceEach steps b := by
  induction steps generalizing a b with
  | nil => rfl
  | cons step later ih =>
    rw [List.forall_mem_cons] at hsteps
    have hlast := getLast?_replace hsteps.1 h
    have hrest := ih (b := Chars.replace step.token step.text b) hsteps.2 (hlast ▸ h)
    rw [← Chars.replace_append hsteps.1.token (.inl h)] at hrest
    exact hrest

/-- A text in which no token stands is left as it is where no token reaches into it. -/
lemma replaceEach_append_of_absent (hsteps : ∀ step ∈ steps, step.IsProper)
    (hwithin : ∀ step ∈ steps, ¬step.token <:+: b)
    (hhead : ∀ c ∈ b.head?, SqlToken.isNameChar c = false) :
    replaceEach steps (a ++ b) = replaceEach steps a ++ b := by
  induction steps generalizing a with
  | nil => rfl
  | cons step later ih =>
    rw [List.forall_mem_cons] at hsteps hwithin
    have hrest := ih (a := Chars.replace step.token step.text a) hsteps.2 hwithin.2
    have hstep : Chars.replace step.token step.text (a ++ b) =
        Chars.replace step.token step.text a ++ b := by
      rw [Chars.replace_append hsteps.1.token (.inr hhead), Chars.replace_of_absent _ hwithin.1]
    rw [← hstep] at hrest
    exact hrest

lemma replaceEach_of_absent (h : ∀ step ∈ steps, ¬step.token <:+: s) :
    replaceEach steps s = s := by
  induction steps with
  | nil => rfl
  | cons step later ih =>
    rw [List.forall_mem_cons] at h
    have hstep := Chars.replace_of_absent step.text h.1
    exact (congrArg (replaceEach later) hstep).trans (ih h.2)

/-- A trace stays to the end. -/
lemma Chars.Diverges.replaceEach {t : List Char} (h : Diverges s t)
    (hsteps : ∀ step ∈ steps, step.IsProper) : Diverges s (replaceEach steps t) := by
  induction steps generalizing t with
  | nil => exact h
  | cons step later ih =>
    rw [List.forall_mem_cons] at hsteps
    exact ih (h.replace hsteps.1.token hsteps.1.text) hsteps.2

/-- The first token that stands in a text leaves its trace. -/
lemma diverges_replaceEach (hsteps : ∀ step ∈ steps, step.IsProper)
    (h : ∃ step ∈ steps, step.token <:+: s) : Chars.Diverges s (replaceEach steps s) := by
  induction steps with
  | nil => simp at h
  | cons step later ih =>
    rw [List.forall_mem_cons] at hsteps
    by_cases hwithin : step.token <:+: s
    · have hstep := Chars.diverges_replace hsteps.1.token hsteps.1.text hwithin
      exact hstep.replaceEach hsteps.2
    · obtain ⟨other, hother, hplace⟩ := h
      have hmem : other ∈ later := (List.mem_cons.mp hother).resolve_left fun heq =>
        hwithin (heq ▸ hplace)
      have hstep := Chars.replace_of_absent step.text hwithin
      rw [replaceEach, List.foldl_cons, hstep]
      exact ih hsteps.2 ⟨other, hmem, hplace⟩

end

/-! ### Whole tokens -/

/-- Wherever one of some tokens stands in a text, no character of a token stands before it, and with
the rest of a name after it, it is one of them. -/
def AreWholeIn (tokens : List (List Char)) (s : List Char) : Prop :=
  ∀ token ∈ tokens, ∀ before after, s = before ++ token ++ after →
    (∀ c ∈ before.getLast?, isTokenPart c = false) ∧
      token ++ after.takeWhile SqlToken.isNameChar ∈ tokens

section

variable {tokens : List (List Char)} {token s segment : List Char}

/-- A name in front of a colon ends there. -/
lemma takeWhile_append_colon (after segment : List Char) :
    (after ++ ':' :: segment).takeWhile SqlToken.isNameChar =
      after.takeWhile SqlToken.isNameChar := by
  have hcolon : SqlToken.isNameChar ':' = false := by decide
  induction after with
  | nil => simp [hcolon]
  | cons c after ih =>
    cases hc : SqlToken.isNameChar c <;> simp [hc, ih]

/-- Tokens that stand whole in a text stand whole in its start. -/
lemma AreWholeIn.of_append (h : AreWholeIn tokens (s ++ ':' :: segment)) : AreWholeIn tokens s := by
  rintro token htoken before after rfl
  have hwhole := h token htoken before (after ++ ':' :: segment) (by simp)
  rwa [takeWhile_append_colon] at hwhole

/-- A token that stands in a segment stands at its colon. -/
lemma IsToken.start_of_within (htoken : IsToken token) (hsegment : ':' ∉ segment)
    (h : token <:+: ':' :: segment) : token <+: ':' :: segment := by
  refine (List.infix_cons_iff.mp h).resolve_right fun hwithin => hsegment ?_
  obtain ⟨name, rfl, -⟩ := htoken
  exact hwithin.subset List.mem_cons_self

lemma IsToken.append_takeWhile {after : List Char} (htoken : IsToken token)
    (h : ':' :: segment = token ++ after) :
    token ++ after.takeWhile SqlToken.isNameChar =
      ':' :: segment.takeWhile SqlToken.isNameChar := by
  obtain ⟨name, rfl, hname⟩ := htoken
  obtain rfl : segment = name ++ after := (List.cons.inj h).2
  rw [List.takeWhile_append_of_pos hname, List.cons_append]

/-- The token of the last segment is one of those that stand in the segment. -/
lemma AreWholeIn.mem_of_within (h : AreWholeIn tokens (s ++ ':' :: segment))
    (hsegment : ':' ∉ segment) (hmem : token ∈ tokens) (htoken : IsToken token)
    (hwithin : token <:+: ':' :: segment) :
    ':' :: segment.takeWhile SqlToken.isNameChar ∈ tokens := by
  obtain ⟨after, hafter⟩ := htoken.start_of_within hsegment hwithin
  have hwhole := h token hmem s after (by rw [← hafter, List.append_assoc])
  rw [htoken.append_takeWhile hafter.symm] at hwhole
  exact hwhole.2

/-- No character of a token stands before a segment of which the token is one of them. -/
lemma AreWholeIn.before (h : AreWholeIn tokens (s ++ ':' :: segment))
    (hmem : ':' :: segment.takeWhile SqlToken.isNameChar ∈ tokens) :
    ∀ c ∈ s.getLast?, isTokenPart c = false := by
  refine (h _ hmem s (segment.dropWhile SqlToken.isNameChar) ?_).1
  rw [List.append_assoc, List.cons_append, List.takeWhile_append_dropWhile]

end

/-! ### The two ways -/

section

variable {steps : List Replacement} {token s segment : List Char}

/-- There is no text for what no replacement names. -/
lemma resultFor?_eq_none (h : token ∉ steps.map Replacement.token) :
    resultFor? steps token = none := by
  induction steps with
  | nil => rfl
  | cons step later ih =>
    rw [List.map_cons, List.mem_cons, not_or] at h
    rw [resultFor?, if_neg (Ne.symm h.1), ih h.2]

lemma textFor?_eq_none (h : token ∉ steps.map Replacement.token) : textFor? steps token = none := by
  induction steps with
  | nil => rfl
  | cons step later ih =>
    rw [List.map_cons, List.mem_cons, not_or] at h
    rw [textFor?, if_neg (Ne.symm h.1), ih h.2]

/-- A token is kept by the replacements of tokens that are no start of it, then replaced, and then
the later replacements change what is put for it. -/
lemma replaceEach_token (hsteps : ∀ step ∈ steps, step.IsProper)
    (horder : steps.Pairwise fun step later => ¬step.token <+: later.token)
    (hmem : token ∈ steps.map Replacement.token) :
    resultFor? steps token = some (replaceEach steps token) := by
  induction steps with
  | nil => simp at hmem
  | cons step later ih =>
    rw [List.forall_mem_cons] at hsteps
    rw [List.pairwise_cons] at horder
    have hself := Chars.replace_append_self hsteps.1.token.ne_nil step.text []
    rw [List.append_nil, Chars.replace_nil, List.append_nil] at hself
    rw [replaceEach, List.foldl_cons, resultFor?]
    by_cases heq : step.token = token
    · rw [if_pos heq, ← heq, hself]
      rfl
    · have hlater : token ∈ later.map Replacement.token :=
        (List.mem_cons.mp hmem).resolve_left (Ne.symm heq)
      obtain ⟨other, hother, rfl⟩ := List.mem_map.mp hlater
      have hwithin : ¬step.token <:+: other.token := by
        obtain ⟨name, hname, hchars⟩ := (hsteps.2 other hother).token
        have hcolon : ':' ∉ name := fun hcolon => absurd (hchars ':' hcolon) (by decide)
        rw [hname]
        intro hwithin
        exact horder.1 other hother (hname ▸ hsteps.1.token.start_of_within hcolon hwithin)
      rw [if_neg heq, Chars.replace_of_absent _ hwithin]
      exact ih hsteps.2 horder.2 hlater

/-- In turn, the token of a segment becomes its result, and the rest of the segment stays. -/
lemma replaceEach_append_segment (hsteps : ∀ step ∈ steps, step.IsProper)
    (horder : steps.Pairwise fun step later => ¬step.token <+: later.token)
    (hwhole : AreWholeIn (steps.map Replacement.token) (s ++ ':' :: segment))
    (hsegment : ':' ∉ segment) :
    replaceEach steps (s ++ ':' :: segment) =
      replaceEach steps s ++ interpolateSegment (resultFor? steps) segment := by
  by_cases hmem : ':' :: segment.takeWhile SqlToken.isNameChar ∈ steps.map Replacement.token
  · have hsplit : ':' :: segment = ':' :: segment.takeWhile SqlToken.isNameChar ++
        segment.dropWhile SqlToken.isNameChar := by
      rw [List.cons_append, List.takeWhile_append_dropWhile]
    have hrest : ∀ step ∈ steps, ¬step.token <:+: segment.dropWhile SqlToken.isNameChar := by
      intro step hstep hwithin
      obtain ⟨name, hname, -⟩ := (hsteps step hstep).token
      have hcolon : ':' ∈ segment.dropWhile SqlToken.isNameChar :=
        hwithin.subset (hname ▸ List.mem_cons_self)
      exact hsegment ((List.dropWhile_suffix _).subset hcolon)
    have hhead : ∀ c ∈ (segment.dropWhile SqlToken.isNameChar).head?,
        SqlToken.isNameChar c = false := by
      intro c hc
      have hstop := List.head?_dropWhile_not SqlToken.isNameChar segment
      rw [Option.mem_def.mp hc] at hstop
      simpa using hstop
    rw [replaceEach_append hsteps (hwhole.before hmem), interpolateSegment,
      replaceEach_token hsteps horder hmem, Option.getD_some, hsplit,
      replaceEach_append_of_absent hsteps hrest hhead]
  · have hnone : ∀ step ∈ steps, ¬step.token <:+: ':' :: segment := fun step hstep hwithin =>
      hmem (hwhole.mem_of_within hsegment (List.mem_map_of_mem hstep) (hsteps step hstep).token
        hwithin)
    have hhead : ∀ c ∈ (':' :: segment).head?, SqlToken.isNameChar c = false := by
      intro c hc
      obtain rfl := Option.some.inj hc
      decide
    rw [replaceEach_append_of_absent hsteps hnone hhead, interpolateSegment,
      resultFor?_eq_none hmem, Option.getD_none, List.cons_append, List.takeWhile_append_dropWhile]

/-- Where the tokens stand whole and none is the start of a later one, replacing them in turn puts
for each token its result. -/
lemma replaceEach_eq_interpolate (hsteps : ∀ step ∈ steps, step.IsProper)
    (horder : steps.Pairwise fun step later => ¬step.token <+: later.token)
    (hwhole : AreWholeIn (steps.map Replacement.token) s) :
    replaceEach steps s = interpolate (resultFor? steps) s := by
  induction s using segment_induction with
  | lead s hs =>
    rw [interpolate_of_not_mem hs]
    apply replaceEach_of_absent
    intro step hstep hwithin
    obtain ⟨name, hname, -⟩ := (hsteps step hstep).token
    exact hs (hwithin.subset (hname ▸ List.mem_cons_self))
  | segment s segment hsegment ih =>
    rw [replaceEach_append_segment hsteps horder hwhole hsegment, interpolate_append hsegment,
      ih hwhole.of_append]

/-- The result for a token is its text, or parts from it at a colon. -/
lemma textFor?_eq_or_diverges (hsteps : ∀ step ∈ steps, step.IsProper) (token : List Char) :
    textFor? steps token = resultFor? steps token ∨
      ∃ text result, textFor? steps token = some text ∧ resultFor? steps token = some result ∧
        Chars.Diverges text result := by
  induction steps with
  | nil => exact .inl rfl
  | cons step later ih =>
    rw [List.forall_mem_cons] at hsteps
    rw [textFor?, resultFor?]
    by_cases heq : step.token = token
    · rw [if_pos heq, if_pos heq]
      by_cases hplace : ∃ other ∈ later, other.token <:+: step.text
      · exact .inr ⟨_, _, rfl, rfl, diverges_replaceEach hsteps.2 hplace⟩
      · push Not at hplace
        rw [replaceEach_of_absent hplace]
        exact .inl rfl
    · rw [if_neg heq, if_neg heq]
      exact ih hsteps.2

/-- What is put for the tokens of a text at once and in turn is the same, or it parts at a colon. -/
lemma interpolate_eq_or_diverges (hsteps : ∀ step ∈ steps, step.IsProper) (s : List Char) :
    ((∀ token ∈ tokensOf s, textFor? steps token = resultFor? steps token) ∧
      interpolate (textFor? steps) s = interpolate (resultFor? steps) s) ∨
    (¬(∀ token ∈ tokensOf s, textFor? steps token = resultFor? steps token) ∧
      Chars.Diverges (interpolate (textFor? steps) s) (interpolate (resultFor? steps) s)) := by
  induction s using segment_induction with
  | lead s hs =>
    rw [interpolate_of_not_mem hs, interpolate_of_not_mem hs, tokensOf_of_not_mem hs]
    exact .inl ⟨by simp, rfl⟩
  | segment s segment hsegment ih =>
    rw [interpolate_append hsegment, interpolate_append hsegment, tokensOf_append hsegment,
      List.forall_mem_append, List.forall_mem_singleton]
    obtain ⟨htokens, hsame⟩ | ⟨htokens, hdiverges⟩ := ih
    · rw [hsame, interpolateSegment, interpolateSegment]
      obtain heq | ⟨text, result, htext, hresult, hdiverges⟩ :=
        textFor?_eq_or_diverges hsteps (':' :: segment.takeWhile SqlToken.isNameChar)
      · rw [heq]
        exact .inl ⟨⟨htokens, rfl⟩, rfl⟩
      · rw [htext, hresult]
        refine .inr ⟨fun h => hdiverges.ne (Option.some.inj h.2), ?_⟩
        exact (hdiverges.append _ _).append_left _
    · exact .inr ⟨fun h => htokens h.1, hdiverges.append _ _⟩

/-- The two readings of a text agree exactly if they agree on each of its tokens. -/
lemma interpolate_eq_iff (hsteps : ∀ step ∈ steps, step.IsProper) (s : List Char) :
    interpolate (resultFor? steps) s = interpolate (textFor? steps) s ↔
      ∀ token ∈ tokensOf s, textFor? steps token = resultFor? steps token := by
  obtain ⟨htokens, hsame⟩ | ⟨htokens, hdiverges⟩ := interpolate_eq_or_diverges hsteps s
  · exact iff_of_true hsame.symm htokens
  · exact iff_of_false hdiverges.ne.symm htokens

/-- The results of some tokens are their texts exactly if no later token stands in such a text. -/
lemma forall_textFor?_eq_iff (hsteps : ∀ step ∈ steps, step.IsProper)
    (horder : steps.Pairwise fun step later => ¬step.token <+: later.token)
    (tokens : List (List Char)) :
    (∀ token ∈ tokens, textFor? steps token = resultFor? steps token) ↔
      steps.Pairwise fun step later => step.token ∈ tokens → ¬later.token <:+: step.text := by
  induction steps with
  | nil => simp [textFor?, resultFor?]
  | cons step later ih =>
    rw [List.forall_mem_cons] at hsteps
    rw [List.pairwise_cons] at horder
    have hnone : step.token ∉ later.map Replacement.token := by
      intro hmem
      obtain ⟨other, hother, heq⟩ := List.mem_map.mp hmem
      exact horder.1 other hother (heq ▸ List.prefix_rfl)
    rw [List.pairwise_cons, ← ih hsteps.2 horder.2]
    simp only [textFor?, resultFor?]
    constructor
    · intro h
      refine ⟨fun other hother hmem hwithin => ?_, fun token hmem => ?_⟩
      · have hself := h _ hmem
        rw [if_pos rfl, if_pos rfl, Option.some.injEq] at hself
        exact (diverges_replaceEach hsteps.2 ⟨other, hother, hwithin⟩).ne hself
      · by_cases heq : step.token = token
        · rw [← heq, textFor?_eq_none hnone, resultFor?_eq_none hnone]
        · have htoken := h token hmem
          rwa [if_neg heq, if_neg heq] at htoken
    · rintro ⟨hstep, hlater⟩ token hmem
      by_cases heq : step.token = token
      · have hkept := replaceEach_of_absent fun other hother =>
          hstep other hother (heq ▸ hmem)
        rw [if_pos heq, if_pos heq, hkept]
      · rw [if_neg heq, if_neg heq]
        exact hlater token hmem

/-- The two ways agree exactly if no later token stands in the text that is put for a token of the
text. -/
lemma replaceEach_eq_interpolate_iff (hsteps : ∀ step ∈ steps, step.IsProper)
    (horder : steps.Pairwise fun step later => ¬step.token <+: later.token)
    (hwhole : AreWholeIn (steps.map Replacement.token) s) :
    replaceEach steps s = interpolate (textFor? steps) s ↔
      steps.Pairwise fun step later => step.token ∈ tokensOf s → ¬later.token <:+: step.text := by
  rw [replaceEach_eq_interpolate hsteps horder hwhole, interpolate_eq_iff hsteps,
    forall_textFor?_eq_iff hsteps horder]

end

end SqlCompose
