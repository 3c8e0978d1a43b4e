import Mathlib
import SqlCompose.Proofs.Positional.Split

/-!
# Where a text ends

A text may end within a quote, after a colon that a second one would make a cast, or with nothing
open. If nothing is open, what follows is split as if it stood alone; a quote that is open goes on.
-/

namespace SqlCompose

namespace SqlToken

/-- Where a text ends, as far as the tokens after it are concerned. -/
inductive Ending
  /-- Nothing is open. -/
  | closed
  /-- After a colon that a second one would make a cast. -/
  | colon
  /-- Within a quote that the character closes. -/
  | quoted (q : Char)
  deriving DecidableEq

namespace Ending

/-- Where a text ends after a character that starts a token. -/
def start (quotes : Char → Option Char) (c : Char) : Ending :=
  match quotes c with
  | some q => quoted q
  | none => if c = ':' then colon else closed

/-- Where a text ends after one more character. -/
def next (quotes : Char → Option Char) : Ending → Char → Ending
  | closed, c => start quotes c
  | colon, c => if c = ':' then closed else start quotes c
  | quoted q, c => if c = q then closed else quoted q

end Ending

/-- Where a text ends. -/
def ending (quotes : Char → Option Char) (s : List Char) : Ending :=
  s.foldl (Ending.next quotes) .closed

/-- Colons and the characters of names neither open nor close a quote. -/
structure AreQuotes (quotes : Char → Option Char) : Prop where
  colon : quotes ':' = none
  nameChar : ∀ c, isNameChar c = true → quotes c = none
  closing : ∀ c q, quotes c = some q → q ≠ ':' ∧ isNameChar q = false

/-- The quotes that are looked for are neither colons nor parts of names. -/
lemma areQuotes_closing : AreQuotes closing? where
  colon := rfl
  nameChar c hc := by
    unfold closing?
    split
    · exact absurd hc (by decide)
    · exact absurd hc (by decide)
    · exact absurd hc (by decide)
    · exact absurd hc (by decide)
    · rfl
  closing c q hq := by
    unfold closing? at hq
    split at hq <;> cases hq <;> decide

/-- An engine that knows fewer quotes still reads names and colons alike. -/
lemma AreQuotes.of_agree {quotes quotes' : Char → Option Char} (h : AreQuotes quotes')
    (hagree : ∀ c q, quotes c = some q → quotes' c = some q) : AreQuotes quotes := by
  have hnone (c : Char) (hc : quotes' c = none) : quotes c = none := by
    cases hq : quotes c with
    | none => rfl
    | some q => rw [hagree c q hq] at hc; cases hc
  exact ⟨hnone _ h.colon, fun c hc => hnone c (h.nameChar c hc),
    fun c q hq => h.closing c q (hagree c q hq)⟩

variable {quotes : Char → Option Char} {s t : List Char} {ts us : List SqlToken}

/-! ### What a token changes -/

lemma foldl_next_quoted {q : Char} {inside : List Char} (h : q ∉ inside) :
    inside.foldl (Ending.next quotes) (.quoted q) = .quoted q := by
  induction inside with
  | nil => rfl
  | cons c inside ih =>
    rw [List.mem_cons, not_or] at h
    have hc : c ≠ q := fun hcq => h.1 hcq.symm
    rw [List.foldl_cons, Ending.next, if_neg hc, ih h.2]

lemma ending_unclosed {c q : Char} {inside : List Char} (hopen : quotes c = some q)
    (hinside : q ∉ inside) : ending quotes (c :: inside) = .quoted q := by
  have hc : Ending.next quotes .closed c = .quoted q := by
    simp only [Ending.next, Ending.start, hopen]
  rw [ending, List.foldl_cons, hc, foldl_next_quoted hinside]

/-- A quoted text leaves nothing open. -/
lemma ending_quoted {c q : Char} {inside : List Char} (hopen : quotes c = some q)
    (hinside : q ∉ inside) (rest : List Char) :
    ending quotes (c :: inside ++ q :: rest) = ending quotes rest := by
  have hinside := ending_unclosed hopen hinside
  rw [ending] at hinside
  rw [ending, List.foldl_append, hinside, List.foldl_cons, Ending.next, if_pos rfl]
  rfl

lemma ending_cons_of_closed {c : Char} (h : Ending.next quotes .closed c = .closed)
    (rest : List Char) : ending quotes (c :: rest) = ending quotes rest := by
  rw [ending, List.foldl_cons, h]
  rfl

lemma ending_other {c : Char} (hclosed : quotes c = none) (hc : c ≠ ':') (rest : List Char) :
    ending quotes (c :: rest) = ending quotes rest := by
  apply ending_cons_of_closed
  simp only [Ending.next, Ending.start, hclosed, if_neg hc]

lemma ending_colon_singleton (h : AreQuotes quotes) : ending quotes [':'] = .colon := by
  simp only [ending, List.foldl_cons, List.foldl_nil, Ending.next, Ending.start, h.colon, if_true]

lemma ending_colon_cons (h : AreQuotes quotes) (s : List Char) :
    ending quotes (':' :: s) = s.foldl (Ending.next quotes) .colon := by
  have hcolon := ending_colon_singleton h
  rw [ending, List.foldl_cons, List.foldl_nil] at hcolon
  rw [ending, List.foldl_cons, hcolon]

/-- A double colon is a cast and leaves nothing open. -/
lemma ending_cast (h : AreQuotes quotes) (rest : List Char) :
    ending quotes (':' :: ':' :: rest) = ending quotes rest := by
  rw [ending_colon_cons h, List.foldl_cons, Ending.next, if_pos rfl]
  rfl

/-- A colon that no second one follows changes nothing. -/
lemma ending_colon {d : Char} (h : AreQuotes quotes) (hd : d ≠ ':') (rest : List Char) :
    ending quotes (':' :: d :: rest) = ending quotes (d :: rest) := by
  rw [ending_colon_cons h, List.foldl_cons, Ending.next, if_neg hd]
  rfl

lemma ending_nameChars (h : AreQuotes quotes) {name : List Char}
    (hname : ∀ d ∈ name, isNameChar d = true) (rest : List Char) :
    ending quotes (name ++ rest) = ending quotes rest := by
  induction name with
  | nil => rfl
  | cons c name ih =>
    rw [List.forall_mem_cons] at hname
    rw [List.cons_append, ending_other (h.nameChar c hname.1) (ne_colon_of_isNameChar hname.1),
      ih hname.2]

/-- A name after a colon leaves nothing open. -/
lemma ending_name (h : AreQuotes quotes) {c : Char} {name : List Char}
    (hstart : isNameStart c = true) (hname : ∀ d ∈ name, isNameChar d = true)
    (rest : List Char) : ending quotes (':' :: c :: name ++ rest) = ending quotes rest := by
  have hc := isNameChar_of_isNameStart hstart
  rw [List.cons_append, List.cons_append, ending_colon h (ne_colon_of_isNameChar hc),
    ← List.cons_append, ending_nameChars h (List.forall_mem_cons.mpr ⟨hc, hname⟩)]

/-! ### Texts one after the other -/

/-- After a text in which nothing is open, a text is split as if it stood alone. -/
lemma Splits.append (hquotes : AreQuotes quotes) (hs : Splits quotes s ts)
    (hend : ending quotes s = .closed) (ht : Splits quotes t us)
    (hhead : ∀ d ∈ t.head?, isNameChar d = false) : Splits quotes (s ++ t) (ts ++ us) := by
  induction hs with
  | nil => exact ht
  | quoted hopen hinside _ ih =>
    rw [ending_quoted hopen hinside] at hend
    have hsplits := Splits.quoted hopen hinside (ih hend)
    rwa [← List.cons_append, ← List.append_assoc] at hsplits
  | unclosed hopen hinside =>
    rw [ending_unclosed hopen hinside] at hend
    cases hend
  | cast _ ih =>
    rw [ending_cast hquotes] at hend
    exact .cast (ih hend)
  | @name c name rest ts hstart hname hrest _ ih =>
    rw [ending_name hquotes hstart hname] at hend
    have hhead' : ∀ d ∈ (rest ++ t).head?, isNameChar d = false := by
      cases rest with
      | nil => exact hhead
      | cons d rest => exact hrest
    have hsplits := Splits.name hstart hname hhead' (ih hend)
    rwa [← List.append_assoc] at hsplits
  | @other c rest ts hclosed hcolon _ ih =>
    by_cases hc : c = ':'
    · subst hc
      cases rest with
      | nil =>
        rw [ending_colon_singleton hquotes] at hend
        cases hend
      | cons d rest =>
        rw [ending_colon hquotes (hcolon rfl d rfl).1] at hend
        exact .other hclosed hcolon (ih hend)
    · rw [ending_other hclosed hc] at hend
      exact .other hclosed (fun h => absurd h hc) (ih hend)

lemma ending_nil (quotes : Char → Option Char) : ending quotes [] = .closed := rfl

/-- A quote that is open at the end of a text goes on in the text after it. -/
lemma Splits.append_of_quoted (hquotes : AreQuotes quotes) {q : Char} (hs : Splits quotes s ts)
    (hend : ending quotes s = .quoted q) (hrest : Splits quotes (takeThrough q t).2 us) :
    ∃ ts' inside, ts = ts' ++ [.quoted inside] ∧
      Splits quotes (s ++ t) (ts' ++ .quoted (inside ++ (takeThrough q t).1) :: us) := by
  induction hs with
  | nil => cases hend
  | quoted hopen hinside _ ih =>
    rw [ending_quoted hopen hinside] at hend
    obtain ⟨ts', inside, rfl, hsplits⟩ := ih hend
    refine ⟨_ :: ts', inside, rfl, ?_⟩
    have hall := Splits.quoted hopen hinside hsplits
    rwa [← List.cons_append, ← List.append_assoc] at hall
  | @unclosed c q' inside hopen hinside =>
    rw [ending_unclosed hopen hinside] at hend
    cases hend
    refine ⟨[], c :: inside, rfl, ?_⟩
    rcases takeThrough_cases q t with ⟨more, rest, rfl, hmore⟩ | hnever
    · rw [takeThrough_closing hmore] at hrest ⊢
      have hboth : q ∉ inside ++ more := by simp [hinside, hmore]
      simpa using Splits.quoted hopen hboth hrest
    · rw [takeThrough_of_not_mem hnever] at hrest ⊢
      have hboth : q ∉ inside ++ t := by simp [hinside, hnever]
      cases hrest
      exact .unclosed hopen hboth
  | cast _ ih =>
    rw [ending_cast hquotes] at hend
    obtain ⟨ts', inside, rfl, hsplits⟩ := ih hend
    exact ⟨.cast :: ts', inside, rfl, .cast hsplits⟩
  | @name c name rest ts hstart hname hnext _ ih =>
    rw [ending_name hquotes hstart hname] at hend
    obtain ⟨ts', inside, rfl, hsplits⟩ := ih hend
    refine ⟨.name (c :: name) :: ts', inside, rfl, ?_⟩
    have hhead : ∀ d ∈ (rest ++ t).head?, isNameChar d = false := by
      cases rest with
      | nil => cases hend
      | cons d rest => exact hnext
    have hall := Splits.name hstart hname hhead hsplits
    rwa [← List.append_assoc] at hall
  | @other c rest ts hclosed hcolon _ ih =>
    cases rest with
    | nil =>
      by_cases hc : c = ':'
      · subst hc
        rw [ending_colon_singleton hquotes] at hend
        cases hend
      · rw [ending_other hclosed hc] at hend
        cases hend
    | cons d rest =>
      have hend' : ending quotes (d :: rest) = .quoted q := by
        by_cases hc : c = ':'
        · subst hc
          rwa [ending_colon hquotes (hcolon rfl d rfl).1] at hend
        · rwa [ending_other hclosed hc] at hend
      obtain ⟨ts', inside, rfl, hsplits⟩ := ih hend'
      exact ⟨.other c :: ts', inside, rfl, .other hclosed hcolon hsplits⟩

/-! ### Where a name stands -/

/-- Nothing is open before a name, also for quotes that agree with those of the reading on what
stands before it. -/
lemma Splits.ending_before_name {quotes' : Char → Option Char} (hquotes : AreQuotes quotes')
    (hagree : ∀ c q, quotes c = some q → quotes' c = some q) {name : List Char}
    (h : Splits quotes s (us ++ .name name :: ts))
    (hother : ∀ c, .other c ∈ us → quotes c = none → quotes' c = none) :
    ending quotes' (us.flatMap chars) = .closed := by
  generalize hall : us ++ .name name :: ts = all at h
  induction h generalizing us with
  | nil => simp at hall
  | @quoted c q inside _ _ hopen hinside _ ih =>
    rcases List.append_eq_cons_iff.mp hall with ⟨rfl, hcons⟩ | ⟨us, rfl, rfl⟩
    · cases hcons
    · have htext : (.quoted (c :: inside ++ [q]) :: us).flatMap chars =
          c :: inside ++ q :: us.flatMap chars := by simp [chars]
      rw [htext, ending_quoted (hagree _ _ hopen) hinside]
      exact ih (fun c hc => hother c (List.mem_cons_of_mem _ hc)) rfl
  | unclosed =>
    rcases List.append_eq_cons_iff.mp hall with ⟨rfl, hcons⟩ | ⟨us, rfl, hnil⟩
    · cases hcons
    · simp at hnil
  | cast _ ih =>
    rcases List.append_eq_cons_iff.mp hall with ⟨rfl, hcons⟩ | ⟨us, rfl, rfl⟩
    · cases hcons
    · have hus := ih (fun c hc => hother c (List.mem_cons_of_mem _ hc)) rfl
      exact (ending_cast hquotes _).trans hus
  | name hstart hname _ _ ih =>
    rcases List.append_eq_cons_iff.mp hall with ⟨rfl, -⟩ | ⟨us, rfl, rfl⟩
    · rfl
    · have hus := ih (fun c hc => hother c (List.mem_cons_of_mem _ hc)) rfl
      exact (ending_name hquotes hstart hname _).trans hus
  | @other c rest _ hclosed hcolon hrest ih =>
    rcases List.append_eq_cons_iff.mp hall with ⟨rfl, hcons⟩ | ⟨us, rfl, rfl⟩
    · cases hcons
    · have hus := ih (fun c hc => hother c (List.mem_cons_of_mem _ hc)) rfl
      have hclosed' := hother c List.mem_cons_self hclosed
      have hchars := hrest.flatMap_chars
      rw [List.flatMap_append] at hchars
      rw [List.flatMap_cons]
      by_cases hc : c = ':'
      · -- the name starts with a colon itself, so something stands between the two
        subst hc
        cases hbefore : us.flatMap chars with
        | nil =>
          rw [hbefore] at hchars
          subst hchars
          exact absurd rfl (hcolon rfl ':' rfl).1
        | cons d more =>
          rw [hbefore] at hchars hus
          subst hchars
          exact (ending_colon hquotes (hcolon rfl d rfl).1 more).trans hus
      · exact (ending_other hclosed' hc _).trans hus

/-! ### Two readings of a text -/

/-- Where a text ends is decided by its last character and where it stood before. -/
lemma ending_concat (quotes : Char → Option Char) (s : List Char) (c : Char) :
    ending quotes (s ++ [c]) = Ending.next quotes (ending quotes s) c := by
  rw [ending, List.foldl_append]
  rfl

lemma next_ne_colon {c : Char} (hc : c ≠ ':') (e : Ending) :
    Ending.next quotes e c ≠ .colon := by
  have hstart : Ending.start quotes c ≠ .colon := by
    unfold Ending.start
    split <;> simp [hc]
  cases e with
  | closed => exact hstart
  | colon =>
    rw [Ending.next, if_neg hc]
    exact hstart
  | quoted q =>
    rw [Ending.next]
    split <;> simp

/-- A quote that is open has been opened. -/
lemma exists_of_ending {q : Char} (hs : ending quotes s = .quoted q) : ∃ c, quotes c = some q := by
  induction s using List.reverseRecOn with
  | nil => cases hs
  | append_singleton s c ih =>
    have hstart (hq : Ending.start quotes c = .quoted q) : quotes c = some q := by
      cases hopen : quotes c with
      | none =>
        simp only [Ending.start, hopen] at hq
        split at hq <;> cases hq
      | some q' =>
        simp only [Ending.start, hopen] at hq
        cases hq
        rfl
    rw [ending_concat] at hs
    cases he : ending quotes s with
    | closed =>
      rw [he] at hs
      exact ⟨c, hstart hs⟩
    | colon =>
      rw [he, Ending.next] at hs
      split at hs
      · cases hs
      · exact ⟨c, hstart hs⟩
    | quoted q' =>
      rw [he, Ending.next] at hs
      split at hs
      · cases hs
      · cases hs
        exact ih he

/-- A colon opens a cast, or makes one, or stands between quotes. -/
lemma next_colon (h : AreQuotes quotes) (s : List Char) :
    Ending.next quotes (ending quotes s) ':' = match ending quotes s with
      | .closed => .colon
      | .colon => .closed
      | .quoted q => .quoted q := by
  cases he : ending quotes s with
  | closed => simp only [Ending.next, Ending.start, h.colon, if_true]
  | colon => rfl
  | quoted q =>
    obtain ⟨c, hc⟩ := exists_of_ending he
    have hq : ':' ≠ q := (h.closing c q hc).1.symm
    simp only [Ending.next, if_neg hq]

/-- Where one reading of a text has nothing open, no other one is after the first half of a cast. -/
lemma ending_ne_colon {quotes' : Char → Option Char} (h : AreQuotes quotes)
    (h' : AreQuotes quotes') (hs : ending quotes s = .closed) : ending quotes' s ≠ .colon := by
  -- a colon takes each of the two endings to the other, so both have to be excluded at once
  have hboth : (ending quotes s = .closed → ending quotes' s ≠ .colon) ∧
      (ending quotes s = .colon → ending quotes' s ≠ .closed) := by
    clear hs
    induction s using List.reverseRecOn with
    | nil => simp [ending_nil]
    | append_singleton s c ih =>
      rw [ending_concat, ending_concat]
      by_cases hc : c = ':'
      · subst hc
        rw [next_colon h, next_colon h']
        revert ih
        cases ending quotes s <;> cases ending quotes' s <;> simp
      · exact ⟨fun _ => next_ne_colon hc _, fun hn => absurd hn (next_ne_colon hc _)⟩
  exact hboth.1 hs

end SqlToken

end SqlCompose
