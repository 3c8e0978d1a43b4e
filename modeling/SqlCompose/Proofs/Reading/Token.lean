import Mathlib
import SqlCompose.Dialect.Quoting

/-!
# Reading a statement as tokens

The text of a statement as the engine of a dialect takes it apart: words, quoted texts and single
symbols, with blanks between them. The closing quote of a quoted text is written twice to stand
inside it, and where the dialect escapes by a backslash, the character after a backslash stands for
itself. Comments are not read.

What a text is read as does not depend on the text before it. If one of two texts has, where they
meet, a character that neither a word nor a quoted text goes on with, then both together are read as
each of them alone.
-/

namespace SqlCompose

/-- The kinds of quotes. -/
inductive Quote
  | single
  | double
  | back
  | bracket
  deriving DecidableEq

namespace Quote

/-- The character that ends a quoted text. -/
def closing : Quote → Char
  | single => '\''
  | double => '"'
  | back => '\x60'
  | bracket => ']'

/-- The quotes that a character opens. A dialect has one kind for names. -/
def opened? (d : Dialect) (c : Char) : Option Quote :=
  if c = '\'' then some single
  else if c = '"' then some double
  else if c = d.nameQuotes.1 then some (if c = '[' then bracket else back)
  else none

/-- Whether a backslash escapes between these quotes; in a quoted name it does not. -/
def escapes (d : Dialect) (q : Quote) : Bool :=
  d.escapesBackslash && q.closing != d.nameQuotes.2

end Quote

/-- A token of a statement. -/
inductive Token
  /-- A name, a keyword, a number or a placeholder. -/
  | word (cs : List Char)
  | quoted (q : Quote) (cs : List Char)
  | symbol (c : Char)
  deriving DecidableEq

/-- Whether a word goes on with a character. A word may also start with a colon. -/
def isTokenChar (c : Char) : Bool :=
  c.isAlphanum || ['_', '.', '@', '$', '#'].contains c || decide (128 ≤ c.toNat)

/-- Where a scanner stands. -/
inductive ScanMode
  | outside
  | word (cs : List Char)
  | quoted (q : Quote) (cs : List Char)
  /-- After a backslash. -/
  | escaped (q : Quote) (cs : List Char)
  /-- After a closing quote. -/
  | closed (q : Quote) (cs : List Char)

/-- The tokens found so far, and where the scanner stands. -/
structure Scanner where
  tokens : List Token
  mode : ScanMode

namespace Scanner

/-- Read a character that starts something new. -/
def start (d : Dialect) (ts : List Token) (c : Char) : Scanner :=
  if c.isWhitespace then ⟨ts, .outside⟩
  else match Quote.opened? d c with
    | some q => ⟨ts, .quoted q []⟩
    | none =>
      if isTokenChar c || c == ':' then ⟨ts, .word [c]⟩
      else ⟨ts ++ [.symbol c], .outside⟩

def step (d : Dialect) : Scanner → Char → Scanner
  | ⟨ts, .outside⟩, c => start d ts c
  | ⟨ts, .word cs⟩, c =>
    if isTokenChar c then ⟨ts, .word (cs ++ [c])⟩ else start d (ts ++ [.word cs]) c
  | ⟨ts, .quoted q cs⟩, c =>
    if c = q.closing then ⟨ts, .closed q cs⟩
    else if c = '\\' ∧ q.escapes d then ⟨ts, .escaped q cs⟩
    else ⟨ts, .quoted q (cs ++ [c])⟩
  | ⟨ts, .escaped q cs⟩, c => ⟨ts, .quoted q (cs ++ [c])⟩
  | ⟨ts, .closed q cs⟩, c =>
    if c = q.closing then ⟨ts, .quoted q (cs ++ [c])⟩
    else start d (ts ++ [.quoted q cs]) c

def scan (d : Dialect) (s : Scanner) (cs : List Char) : Scanner := cs.foldl (step d) s

/-- All tokens, if the text may end here. -/
def finish? : Scanner → Option (List Token)
  | ⟨ts, .outside⟩ => some ts
  | ⟨ts, .word cs⟩ => some (ts ++ [.word cs])
  | ⟨ts, .closed q cs⟩ => some (ts ++ [.quoted q cs])
  | ⟨_, .quoted _ _⟩ | ⟨_, .escaped _ _⟩ => none

end Scanner

/-- The tokens of a text, if every quote in it is closed. -/
def tokens? (d : Dialect) (s : String) : Option (List Token) :=
  (Scanner.scan d ⟨[], .outside⟩ s.toList).finish?

/-! ### Texts that meet -/

/-- The characters that quotes are made of. -/
def quoteMarks : List Char := ['\'', '"', '\x60', '[', ']']

/-- Whether a character ends whatever stands before it. -/
def isBreak (c : Char) : Bool := !isTokenChar c && !quoteMarks.contains c

/-- Whether no token of a text before it can go on into a text. -/
def startsApart (s : String) : Bool := s.toList.head?.all isBreak

/-- Whether no token of a text can go on into a text after it. -/
def endsApart (s : String) : Bool := s.toList.getLast?.all fun c => isBreak c && c != ':'

lemma startsApart_append {s t : String} (h : startsApart s = true) (hne : s ≠ "") :
    startsApart (s ++ t) = true := by
  have hchars : s.toList ≠ [] := fun h' => hne (String.toList_eq_nil_iff.mp h')
  obtain ⟨c, cs, hcs⟩ := List.exists_cons_of_ne_nil hchars
  simpa [startsApart, hcs] using h

lemma endsApart_append {s t : String} (h : endsApart t = true) (hne : t ≠ "") :
    endsApart (s ++ t) = true := by
  have hchars : t.toList ≠ [] := fun h' => hne (String.toList_eq_nil_iff.mp h')
  rw [endsApart, String.toList_append, List.getLast?_append_of_ne_nil _ hchars]
  exact h

namespace Scanner

/-- A scanner with more tokens before its own. -/
def behind (us : List Token) (s : Scanner) : Scanner := ⟨us ++ s.tokens, s.mode⟩

lemma start_behind (d : Dialect) (us ts : List Token) (c : Char) :
    start d (us ++ ts) c = (start d ts c).behind us := by
  unfold start
  split
  · rfl
  · split
    · rfl
    · split
      · rfl
      · rw [List.append_assoc]
        rfl

/-- What has been read already does not change how a character is read. -/
lemma step_behind (d : Dialect) (us : List Token) (s : Scanner) (c : Char) :
    step d (s.behind us) c = (step d s c).behind us := by
  obtain ⟨ts, mode⟩ := s
  cases mode with
  | outside => exact start_behind d us ts c
  | word cs =>
    simp only [behind, step]
    split
    · rfl
    · rw [List.append_assoc, start_behind]
      rfl
  | quoted q cs =>
    simp only [behind, step]
    split
    · rfl
    · split <;> rfl
  | escaped q cs => rfl
  | closed q cs =>
    simp only [behind, step]
    split
    · rfl
    · rw [List.append_assoc, start_behind]
      rfl

/-- What is read does not depend on the tokens before it. -/
lemma scan_behind (d : Dialect) (us : List Token) (s : Scanner) (cs : List Char) :
    scan d (s.behind us) cs = (scan d s cs).behind us := by
  induction cs generalizing s with
  | nil => rfl
  | cons c cs ih =>
    rw [scan, List.foldl_cons, step_behind]
    exact ih (step d s c)

lemma finish?_behind (us : List Token) (s : Scanner) :
    (s.behind us).finish? = s.finish?.map (us ++ ·) := by
  obtain ⟨ts, mode⟩ := s
  cases mode <;> simp [behind, finish?]

lemma scan_append (d : Dialect) (s : Scanner) (cs cs' : List Char) :
    scan d s (cs ++ cs') = scan d (scan d s cs) cs' := List.foldl_append

lemma closing_ne_of_isBreak {c : Char} (h : isBreak c = true) (q : Quote) : c ≠ q.closing := by
  rintro rfl
  cases q <;> exact absurd h (by decide)

lemma isTokenChar_of_isBreak {c : Char} (h : isBreak c = true) : isTokenChar c = false := by
  simp only [isBreak, Bool.and_eq_true, Bool.not_eq_true'] at h
  exact h.1

lemma opened?_of_isBreak {d : Dialect} {c : Char} (h : isBreak c = true) :
    Quote.opened? d c = none := by
  have hquotes : ∀ q ∈ quoteMarks, c ≠ q := by
    rintro q hq rfl
    simp only [isBreak, Bool.and_eq_true, Bool.not_eq_true', List.contains_eq_mem,
      decide_eq_false_iff_not] at h
    exact h.2 hq
  have hname : c ≠ d.nameQuotes.1 := hquotes _ (by cases d <;> decide)
  simp [Quote.opened?, hquotes '\'' (by decide), hquotes '"' (by decide), hname]

/-- A break ends what the scanner is in. -/
lemma step_of_isBreak {d : Dialect} {s : Scanner} {ts : List Token} {c : Char}
    (hs : s.finish? = some ts) (h : isBreak c = true) :
    step d s c = step d ⟨ts, .outside⟩ c := by
  have hchar := isTokenChar_of_isBreak h
  obtain ⟨us, mode⟩ := s
  cases mode with
  | outside =>
    obtain rfl := Option.some.inj hs
    rfl
  | word cs =>
    obtain rfl := Option.some.inj hs
    simp [step, hchar]
  | quoted q cs => simp [finish?] at hs
  | escaped q cs => simp [finish?] at hs
  | closed q cs =>
    obtain rfl := Option.some.inj hs
    simp [step, closing_ne_of_isBreak h q]

/-- Nothing is open after a break that does not stand in a quoted text and is no colon. -/
lemma step_isBreak_eq {d : Dialect} {s : Scanner} {ts : List Token} {c : Char}
    (h : isBreak c = true) (hcolon : c ≠ ':') (hs : (step d s c).finish? = some ts) :
    step d s c = ⟨ts, .outside⟩ := by
  have hchar := isTokenChar_of_isBreak h
  have hopened := opened?_of_isBreak (d := d) h
  have hstart (us : List Token) (hus : (start d us c).finish? = some ts) :
      start d us c = ⟨ts, .outside⟩ := by
    have hword : (isTokenChar c || c == ':') = false := by simp [hchar, hcolon]
    simp only [start, hopened, hword, Bool.false_eq_true, if_false] at hus ⊢
    split at hus
    · obtain rfl := Option.some.inj hus
      rw [if_pos ‹_›]
    · obtain rfl := Option.some.inj hus
      rw [if_neg ‹_›]
  obtain ⟨us, mode⟩ := s
  cases mode with
  | outside => exact hstart us hs
  | word cs =>
    simp only [step, hchar, Bool.false_eq_true, if_false] at hs ⊢
    exact hstart _ hs
  | quoted q cs =>
    simp only [step, closing_ne_of_isBreak h q, if_false] at hs
    split at hs <;> simp [finish?] at hs
  | escaped q cs => simp [step, finish?] at hs
  | closed q cs =>
    simp only [step, closing_ne_of_isBreak h q, if_false] at hs ⊢
    exact hstart _ hs

end Scanner

open Scanner

variable {d : Dialect} {s t : String} {ts us : List Token}

/-- Reading goes on after a text as if nothing stood before. -/
lemma tokens?_append_of_scan (h : scan d ⟨[], .outside⟩ s.toList = ⟨ts, .outside⟩) :
    tokens? d (s ++ t) = (tokens? d t).map (ts ++ ·) := by
  have hbehind : (⟨ts, .outside⟩ : Scanner) = (⟨[], .outside⟩ : Scanner).behind ts := by
    simp [behind]
  rw [tokens?, String.toList_append, scan_append, h, hbehind, scan_behind, finish?_behind, tokens?]

/-- Tokens of two texts are read apart where none can go on from the first. -/
lemma tokens?_append_of_endsApart (hs : tokens? d s = some ts) (h : endsApart s = true) :
    tokens? d (s ++ t) = (tokens? d t).map (ts ++ ·) := by
  refine tokens?_append_of_scan ?_
  rw [tokens?] at hs
  rw [endsApart] at h
  rcases List.eq_nil_or_concat' s.toList with hnil | ⟨cs, c, hcs⟩
  · rw [hnil] at hs ⊢
    obtain rfl := Option.some.inj hs
    rfl
  · rw [hcs] at hs h ⊢
    rw [scan_append] at hs ⊢
    obtain ⟨hbreak, hcolon⟩ : isBreak c = true ∧ c ≠ ':' := by simpa using h
    exact step_isBreak_eq hbreak hcolon hs

/-- Tokens of two texts are read apart where none can go on into the second. -/
lemma tokens?_append_of_startsApart (hs : tokens? d s = some ts) (h : startsApart t = true) :
    tokens? d (s ++ t) = (tokens? d t).map (ts ++ ·) := by
  rw [tokens?] at hs
  cases ht : t.toList with
  | nil =>
    obtain rfl := String.toList_eq_nil_iff.mp ht
    have hempty : tokens? d "" = some [] := rfl
    rw [String.append_empty, tokens?, hs, hempty]
    simp
  | cons c cs =>
    -- the break ends what the scanner is in, and stands outside of everything itself
    rw [startsApart, ht] at h
    have hc : isBreak c = true := by simpa using h
    have hbehind : (⟨ts, .outside⟩ : Scanner) = (⟨[], .outside⟩ : Scanner).behind ts := by
      simp [behind]
    rw [tokens?, tokens?, String.toList_append, scan_append, ht, scan, List.foldl_cons,
      step_of_isBreak hs hc, hbehind, ← finish?_behind, ← scan_behind]
    rfl

/-- Two texts that are apart are read as each of them alone. -/
lemma tokens?_append (hs : tokens? d s = some ts) (ht : tokens? d t = some us)
    (h : endsApart s = true ∨ startsApart t = true) : tokens? d (s ++ t) = some (ts ++ us) := by
  rcases h with h | h
  · rw [tokens?_append_of_endsApart hs h, ht]
    rfl
  · rw [tokens?_append_of_startsApart hs h, ht]
    rfl

end SqlCompose
