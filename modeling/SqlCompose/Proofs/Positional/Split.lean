import Mathlib
import SqlCompose.Built.Positional

/-!
# Splitting a statement for its placeholders

The rules by which a text falls into quoted parts, casts, names and other characters, for given
quotes. With the quotes of positional placeholders each text is split in exactly one way. The
statement with markers is then the same tokens, with a marker in the place of each name that has a
value, and nothing else changed.
-/

namespace SqlCompose

namespace SqlToken

/-- A text falls into these tokens, where `quotes` gives the quote that closes what a character
opens. A name is as long as possible, and a colon that no name and no colon follows is a character
like others. -/
inductive Splits (quotes : Char → Option Char) : List Char → List SqlToken → Prop
  | nil : Splits quotes [] []
  | quoted {c q : Char} {inside rest : List Char} {ts : List SqlToken}
      (hopen : quotes c = some q) (hinside : q ∉ inside) (hrest : Splits quotes rest ts) :
      Splits quotes (c :: inside ++ q :: rest) (.quoted (c :: inside ++ [q]) :: ts)
  /-- A quote that is not closed takes the rest of the text. -/
  | unclosed {c q : Char} {inside : List Char} (hopen : quotes c = some q) (hinside : q ∉ inside) :
      Splits quotes (c :: inside) [.quoted (c :: inside)]
  | cast {rest : List Char} {ts : List SqlToken} (hrest : Splits quotes rest ts) :
      Splits quotes (':' :: ':' :: rest) (.cast :: ts)
  | name {c : Char} {name rest : List Char} {ts : List SqlToken} (hstart : isNameStart c = true)
      (hname : ∀ d ∈ name, isNameChar d = true) (hend : ∀ d ∈ rest.head?, isNameChar d = false)
      (hrest : Splits quotes rest ts) :
      Splits quotes (':' :: c :: name ++ rest) (.name (c :: name) :: ts)
  | other {c : Char} {rest : List Char} {ts : List SqlToken} (hclosed : quotes c = none)
      (hcolon : c = ':' → ∀ d ∈ rest.head?, d ≠ ':' ∧ isNameStart d = false)
      (hrest : Splits quotes rest ts) :
      Splits quotes (c :: rest) (.other c :: ts)

/-! ### The scanner splits -/

lemma isNameChar_of_isNameStart {c : Char} (h : isNameStart c = true) : isNameChar c = true := by
  simp only [isNameStart, isNameChar, Char.isAlphanum, Bool.or_eq_true] at h ⊢
  exact h.imp_left .inl

lemma ne_colon_of_isNameChar {c : Char} (h : isNameChar c = true) : c ≠ ':' := by
  rintro rfl
  exact absurd h (by decide)

/-- What the quote is not in stands before it. -/
lemma takeThrough_append {q : Char} {inside : List Char} (h : q ∉ inside) (s : List Char) :
    takeThrough q (inside ++ s) = (inside ++ (takeThrough q s).1, (takeThrough q s).2) := by
  induction inside with
  | nil => rfl
  | cons c inside ih =>
    rw [List.mem_cons, not_or] at h
    have hc : c ≠ q := fun hcq => h.1 hcq.symm
    simp [takeThrough, hc, ih h.2]

lemma takeThrough_closing {q : Char} {inside : List Char} (h : q ∉ inside) (rest : List Char) :
    takeThrough q (inside ++ q :: rest) = (inside ++ [q], rest) := by
  simp [takeThrough_append h, takeThrough]

lemma takeThrough_of_not_mem {q : Char} {inside : List Char} (h : q ∉ inside) :
    takeThrough q inside = (inside, []) := by
  simpa [takeThrough] using takeThrough_append h []

/-- No character is lost where a text is cut. -/
lemma takeThrough_fst_append_snd (q : Char) (s : List Char) :
    (takeThrough q s).1 ++ (takeThrough q s).2 = s := by
  induction s with
  | nil => rfl
  | cons c s ih =>
    simp only [takeThrough]
    split
    · rfl
    · simp [ih]

/-- A quote is closed somewhere, or nowhere. -/
lemma takeThrough_cases (q : Char) (s : List Char) :
    (∃ inside rest, s = inside ++ q :: rest ∧ q ∉ inside) ∨ q ∉ s := by
  by_cases h : q ∈ s
  · obtain ⟨inside, rest, rfl, hinside⟩ := List.eq_append_cons_of_mem h
    exact .inl ⟨inside, rest, rfl, hinside⟩
  · exact .inr h

/-- What satisfies a condition up to a character that does not is taken as a whole. -/
lemma span_of_head {p : Char → Bool} {name rest : List Char} (hname : ∀ d ∈ name, p d = true)
    (hend : ∀ d ∈ rest.head?, p d = false) :
    (name ++ rest).takeWhile p = name ∧ (name ++ rest).dropWhile p = rest := by
  rw [List.takeWhile_append_of_pos hname, List.dropWhile_append_of_pos hname]
  cases rest with
  | nil => simp
  | cons d rest =>
    have hd : p d = false := hend d rfl
    simp [hd]

lemma first_quoted {c q : Char} {rest : List Char} (hopen : closing? c = some q) :
    first c rest = (.quoted (c :: (takeThrough q rest).1), (takeThrough q rest).2) := by
  simp only [first, hopen]

/-- After a colon, a name is read up to what is no part of it. -/
lemma first_name {c : Char} {name rest : List Char} (hstart : isNameStart c = true)
    (hname : ∀ d ∈ name, isNameChar d = true) (hend : ∀ d ∈ rest.head?, isNameChar d = false) :
    first ':' (c :: name ++ rest) = (.name (c :: name), rest) := by
  have hchar := isNameChar_of_isNameStart hstart
  have hall : ∀ d ∈ c :: name, isNameChar d = true := List.forall_mem_cons.mpr ⟨hchar, hname⟩
  obtain ⟨htake, hdrop⟩ := span_of_head hall hend
  rw [List.cons_append] at htake hdrop ⊢
  have hclosing : closing? ':' = none := rfl
  simp only [first, hclosing, if_true]
  split
  · rename_i heq
    exact absurd (List.cons.inj heq).1 (ne_colon_of_isNameChar hchar)
  · rename_i heq
    obtain ⟨rfl, rfl⟩ := List.cons.inj heq
    rw [if_pos hstart, htake, hdrop]
  · rename_i heq
    exact absurd heq (by simp)

lemma first_other {c : Char} {rest : List Char} (hclosed : closing? c = none)
    (hcolon : c = ':' → ∀ d ∈ rest.head?, d ≠ ':' ∧ isNameStart d = false) :
    first c rest = (.other c, rest) := by
  simp only [first, hclosed]
  split
  · rename_i hc
    split
    · exact absurd rfl (hcolon hc ':' rfl).1
    · rename_i d more _
      rw [(hcolon hc d rfl).2]
      rfl
    · rfl
  · rfl

lemma scan_cons {c : Char} {rest rest' : List Char} {t : SqlToken}
    (h : first c rest = (t, rest')) : scan (c :: rest) = t :: scan rest' := by
  rw [scan, h]

/-- The split into tokens that the scanner makes is the only one. -/
lemma Splits.eq_scan {s : List Char} {ts : List SqlToken} (h : Splits closing? s ts) :
    ts = scan s := by
  induction h with
  | nil => rw [scan]
  | @quoted c q inside rest ts hopen hinside _ ih =>
    have hfirst : first c (inside ++ q :: rest) = (.quoted (c :: inside ++ [q]), rest) := by
      rw [first_quoted hopen, takeThrough_closing hinside]
      rfl
    rw [List.cons_append, List.cons_append, scan_cons hfirst, ih]
    rfl
  | @unclosed c q inside hopen hinside =>
    have hfirst : first c inside = (.quoted (c :: inside), []) := by
      rw [first_quoted hopen, takeThrough_of_not_mem hinside]
    rw [scan_cons hfirst, scan]
  | cast _ ih => rw [scan_cons (by rfl), ih]
  | name hstart hname hend _ ih =>
    rw [List.cons_append, scan_cons (first_name hstart hname hend), ih]
  | other hclosed hcolon _ ih => rw [scan_cons (first_other hclosed hcolon), ih]

/-- The first token is split off by the rules. -/
lemma Splits.first_cons {c : Char} {rest : List Char} {ts : List SqlToken}
    (h : Splits closing? (first c rest).2 ts) :
    Splits closing? (c :: rest) ((first c rest).1 :: ts) := by
  cases hclosing : closing? c with
  | some q =>
    rw [first_quoted hclosing] at h ⊢
    rcases takeThrough_cases q rest with ⟨inside, rest, rfl, hinside⟩ | hrest
    · rw [takeThrough_closing hinside] at h ⊢
      exact .quoted hclosing hinside h
    · rw [takeThrough_of_not_mem hrest] at h ⊢
      cases h
      exact .unclosed hclosing hrest
  | none =>
    by_cases hc : c = ':'
    · subst hc
      match rest with
      | [] => exact .other hclosing (by simp) h
      | d :: more =>
        by_cases hd : d = ':'
        · subst hd
          exact .cast h
        by_cases hstart : isNameStart d = true
        · obtain ⟨hname, hdrop⟩ : (∀ e ∈ more.takeWhile isNameChar, isNameChar e = true) ∧
              ∀ e ∈ (more.dropWhile isNameChar).head?, isNameChar e = false := by
            refine ⟨fun e he => List.mem_takeWhile_imp he, fun e he => ?_⟩
            have hhead := List.head?_dropWhile_not isNameChar more
            rwa [Option.mem_def.mp he] at hhead
          have hsplit := first_name hstart hname hdrop
          rw [List.cons_append, List.takeWhile_append_dropWhile] at hsplit
          rw [hsplit] at h ⊢
          have hsplits := Splits.name hstart hname hdrop h
          rwa [List.cons_append, List.cons_append, List.takeWhile_append_dropWhile] at hsplits
        · rw [Bool.not_eq_true] at hstart
          have hother : ':' = ':' → ∀ e ∈ (d :: more).head?, e ≠ ':' ∧ isNameStart e = false := by
            rintro - e he
            obtain rfl := Option.some.inj he
            exact ⟨hd, hstart⟩
          rw [first_other hclosing hother] at h ⊢
          exact .other hclosing hother h
    · have hother : c = ':' → ∀ d ∈ rest.head?, d ≠ ':' ∧ isNameStart d = false :=
        fun h => absurd h hc
      rw [first_other hclosing hother] at h ⊢
      exact .other hclosing hother h

/-- The scanner splits every text into tokens. -/
lemma splits_scan (s : List Char) : Splits closing? s (scan s) := by
  induction s using scan.induct with
  | case1 =>
    rw [scan]
    exact .nil
  | case2 c rest ih =>
    rw [scan]
    exact ih.first_cons

/-- A text is split in one way only, the one of the scanner. -/
theorem splits_iff {s : List Char} {ts : List SqlToken} : Splits closing? s ts ↔ ts = scan s := by
  constructor
  · exact Splits.eq_scan
  · rintro rfl
    exact splits_scan s

/-- Nothing of a text is lost. -/
lemma Splits.flatMap_chars {quotes : Char → Option Char} {s : List Char} {ts : List SqlToken}
    (h : Splits quotes s ts) : ts.flatMap chars = s := by
  induction h with
  | nil => rfl
  | quoted _ _ _ ih => simp [chars, ih]
  | unclosed => simp [chars]
  | cast _ ih => simp [chars, ih]
  | name _ _ _ _ ih => simp [chars, ih]
  | other _ _ _ ih => simp [chars, ih]

/-! ### Names that have a value -/

/-- The value that a token stands for. -/
def value? (params : Params) : SqlToken → Option Value
  | .name chars => params.get? (":" ++ .ofList chars)
  | _ => none

/-- The tokens that stand for a value. -/
def bound (params : Params) (ts : List SqlToken) : List SqlToken :=
  ts.filter fun t => (t.value? params).isSome

/-- The text of some tokens, with the given texts in the places of those that stand for a value. -/
def fillBound (params : Params) : List SqlToken → List (List Char) → List Char
  | [], _ => []
  | t :: ts, texts =>
    if (t.value? params).isSome then texts.headD [] ++ fillBound params ts texts.tail
    else t.chars ++ fillBound params ts texts

variable {params : Params} {t : SqlToken} {ts : List SqlToken} {v : Value}

lemma bound_cons_some (h : t.value? params = some v) :
    bound params (t :: ts) = t :: bound params ts := by
  rw [bound, List.filter_cons, h]
  rfl

lemma bound_cons_none (h : t.value? params = none) : bound params (t :: ts) = bound params ts := by
  rw [bound, List.filter_cons, h]
  rfl

lemma fillBound_cons_some (h : t.value? params = some v) (text : List Char)
    (texts : List (List Char)) :
    fillBound params (t :: ts) (text :: texts) = text ++ fillBound params ts texts := by
  rw [fillBound, h]
  rfl

lemma fillBound_cons_none (h : t.value? params = none) (texts : List (List Char)) :
    fillBound params (t :: ts) texts = t.chars ++ fillBound params ts texts := by
  rw [fillBound, h]
  rfl

/-- With their own texts in their places, the text is the one that was split. -/
lemma fillBound_chars (params : Params) (ts : List SqlToken) :
    fillBound params ts ((bound params ts).map chars) = ts.flatMap chars := by
  induction ts with
  | nil => rfl
  | cons t ts ih =>
    cases hv : t.value? params with
    | none => rw [bound_cons_none hv, fillBound_cons_none hv, ih, List.flatMap_cons]
    | some v =>
      rw [bound_cons_some hv, List.map_cons, fillBound_cons_some hv, ih, List.flatMap_cons]

end SqlToken

namespace Built

open SqlToken

variable {style : MarkerStyle} {params : Params} {t : SqlToken} {ts : List SqlToken} {n : Nat}

/-- A name that has a value is replaced by a marker, and the value is noted. -/
lemma placeMarkers_cons_some {v : Value} (h : t.value? params = some v) :
    placeMarkers style params n (t :: ts) =
      (style.marker (n + 1) ++ (placeMarkers style params (n + 1) ts).1,
        v :: (placeMarkers style params (n + 1) ts).2) := by
  cases t with
  | name chars =>
    have hv : params.get? (":" ++ .ofList chars) = some v := h
    simp only [placeMarkers, hv]
  | quoted | cast | other => simp [value?] at h

lemma placeMarkers_cons_none (h : t.value? params = none) :
    placeMarkers style params n (t :: ts) =
      (t.chars ++ (placeMarkers style params n ts).1, (placeMarkers style params n ts).2) := by
  cases t with
  | name chars =>
    have hv : params.get? (":" ++ .ofList chars) = none := h
    simp only [placeMarkers, hv]
  | quoted | cast | other => rfl

/-- What comes later is numbered on. -/
lemma placeMarkers_append (style : MarkerStyle) (params : Params) (n : Nat)
    (ts us : List SqlToken) : placeMarkers style params n (ts ++ us) =
      let left := placeMarkers style params n ts
      let right := placeMarkers style params (n + left.2.length) us
      (left.1 ++ right.1, left.2 ++ right.2) := by
  induction ts generalizing n with
  | nil => rfl
  | cons t ts ih =>
    cases hv : t.value? params with
    | none => simp [placeMarkers_cons_none hv, ih]
    | some v =>
      have hnumber (k : Nat) : n + 1 + k = n + (k + 1) := by omega
      simp [placeMarkers_cons_some hv, ih, hnumber]

/-- The markers are numbered on, one for each name that has a value. -/
lemma placeMarkers_fst (style : MarkerStyle) (params : Params) (n : Nat) (ts : List SqlToken) :
    (placeMarkers style params n ts).1 =
      fillBound params ts ((List.range' (n + 1) (bound params ts).length).map style.marker) := by
  induction ts generalizing n with
  | nil => rfl
  | cons t ts ih =>
    cases hv : t.value? params with
    | none =>
      rw [placeMarkers_cons_none hv, bound_cons_none hv, fillBound_cons_none hv, ← ih]
    | some v =>
      rw [placeMarkers_cons_some hv, bound_cons_some hv, List.length_cons, List.range'_succ,
        List.map_cons, fillBound_cons_some hv, ← ih]

/-- The values stand in the order of their names. -/
lemma map_some_placeMarkers_snd (style : MarkerStyle) (params : Params) (n : Nat)
    (ts : List SqlToken) :
    (placeMarkers style params n ts).2.map some = (bound params ts).map (value? params) := by
  induction ts generalizing n with
  | nil => rfl
  | cons t ts ih =>
    cases hv : t.value? params with
    | none => rw [placeMarkers_cons_none hv, bound_cons_none hv, ih]
    | some v =>
      rw [placeMarkers_cons_some hv, bound_cons_some hv, List.map_cons, List.map_cons, ih, hv]

lemma toPositional_eq (b : Built) (style : MarkerStyle) : b.toPositional style =
    (.ofList (placeMarkers style b.allParams 0 (scan b.sql.toList)).1,
      (placeMarkers style b.allParams 0 (scan b.sql.toList)).2) := rfl

/-- A text is split by the rules in one way only. The statement with markers is the same tokens
with the markers 1, 2, ... in the places of the names that have a value; the values are those of
these names, in order; and with the names in the places of the markers it is the text as it was. If
no name has a value, nothing is changed. -/
theorem toPositional_fillBound (b : Built) (style : MarkerStyle) : ∃ ts,
    (∀ us, Splits closing? b.sql.toList us ↔ us = ts) ∧
    (b.toPositional style).1.toList = fillBound b.allParams ts
      ((List.range' 1 (bound b.allParams ts).length).map style.marker) ∧
    (b.toPositional style).2.map some = (bound b.allParams ts).map (value? b.allParams) ∧
    b.sql.toList = fillBound b.allParams ts ((bound b.allParams ts).map chars) ∧
    (bound b.allParams ts = [] → b.toPositional style = (b.sql, [])) := by
  have hchars := (splits_scan b.sql.toList).flatMap_chars
  have hvalues := map_some_placeMarkers_snd style b.allParams 0 (scan b.sql.toList)
  refine ⟨scan b.sql.toList, fun us => splits_iff, ?_, hvalues, ?_, fun hnone => ?_⟩
  · rw [toPositional_eq, String.toList_ofList, placeMarkers_fst]
  · rw [fillBound_chars, hchars]
  · have hfill := fillBound_chars b.allParams (scan b.sql.toList)
    rw [hnone] at hvalues hfill
    rw [toPositional_eq, placeMarkers_fst, hnone, List.map_eq_nil_iff.mp hvalues]
    rw [hchars] at hfill
    exact Prod.ext ((congrArg String.ofList hfill).trans String.ofList_toList) rfl

end Built

end SqlCompose
