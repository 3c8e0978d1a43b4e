import Mathlib
import SqlCompose.Proofs.Reading.Precedence
import SqlCompose.Proofs.Binding.Fresh

/-!
# Reading what stands for a value

A placeholder is one word, and a string literal is one quoted text that reads as the text it was
made from, whatever characters it holds. No literal has a parenthesis, an operator or a keyword of a
predicate outside quotes, so what stands for a value, with placeholders or inline, is one scalar.
-/

namespace SqlCompose

open Scanner

variable {d : Dialect} {s t : String} {c : Char} {cs : List Char}

/-! ### Words -/

/-- Whether a word may start with a character. -/
def startsWord (c : Char) : Bool := isTokenChar c || c == ':'

lemma start_of_startsWord (h : startsWord c = true) (ts : List Token) :
    start d ts c = ⟨ts, .word [c]⟩ := by
  have hne (c' : Char) (h' : startsWord c' = false) : c ≠ c' := by
    rintro rfl
    rw [h] at h'
    exact absurd h' (by decide)
  have hblank : c.isWhitespace = false := by
    simp [Char.isWhitespace, hne ' ' (by decide), hne '\t' (by decide),
      hne '\r' (by decide), hne '\n' (by decide)]
  have hname : c ≠ d.nameQuotes.1 := hne _ (by cases d <;> decide)
  have hopened : Quote.opened? d c = none := by
    simp [Quote.opened?, hne '\'' (by decide), hne '"' (by decide), hname]
  rw [startsWord] at h
  simp [start, hblank, hopened, h]

/-- Characters that a word goes on with. -/
lemma scan_word {ts : List Token} {ws : List Char}
    (h : ∀ c ∈ ws, isTokenChar c = true) :
    scan d ⟨ts, .word cs⟩ ws = ⟨ts, .word (cs ++ ws)⟩ := by
  induction ws generalizing cs with
  | nil => rw [List.append_nil]; rfl
  | cons c ws ih =>
    rw [List.forall_mem_cons] at h
    have hstep : step d ⟨ts, .word cs⟩ c = ⟨ts, .word (cs ++ [c])⟩ := by
      simp [step, h.1]
    have hrest : scan d ⟨ts, .word (cs ++ [c])⟩ ws = ⟨ts, .word (cs ++ [c] ++ ws)⟩ := ih h.2
    rw [scan, List.foldl_cons, hstep, ← scan, hrest, List.append_assoc]
    rfl

lemma tokens?_word (h : s.toList = c :: cs) (hc : startsWord c = true)
    (hcs : ∀ c ∈ cs, isTokenChar c = true) :
    tokens? d s = some [.word (c :: cs)] := by
  have hstep : step d ⟨[], .outside⟩ c = ⟨[], .word [c]⟩ := start_of_startsWord hc []
  rw [tokens?, h, scan, List.foldl_cons, hstep]
  exact congrArg finish? (scan_word hcs)

/-! ### Quoted texts -/

/-- What is quoted as a literal is read as the text that it was made from. -/
lemma scan_literalChars (cs cs' : List Char) :
    scan d ⟨[], .quoted .single cs⟩ (cs'.flatMap d.literalChar) =
      ⟨[], .quoted .single (cs ++ cs')⟩ := by
  have hescapes : Quote.single.escapes d = d.escapesBackslash := by cases d <;> rfl
  induction cs' generalizing cs with
  | nil => rw [List.append_nil]; rfl
  | cons c cs' ih =>
    have hchar : scan d ⟨[], .quoted .single cs⟩ (d.literalChar c) =
        ⟨[], .quoted .single (cs ++ [c])⟩ := by
      unfold Dialect.literalChar
      split_ifs with hquote hslash
      · subst hquote
        rfl
      · obtain ⟨rfl, hslash⟩ := hslash
        simp [scan, step, Quote.closing, hescapes, hslash]
      · have hslash' : ¬(c = '\\' ∧ Quote.single.escapes d = true) := by rwa [hescapes]
        simp [scan, step, Quote.closing, hquote, hslash']
    rw [List.flatMap_cons, scan_append, hchar, ih, List.append_assoc]
    rfl

/-- A string literal is one token, with the text between its quotes. -/
theorem tokens?_quoteText (d : Dialect) (s : String) :
    tokens? d (d.quoteText s) = some [.quoted .single s.toList] := by
  have hopen : step d ⟨[], .outside⟩ '\'' = ⟨[], .quoted .single []⟩ := rfl
  rw [tokens?, Dialect.quoteText, String.toList_ofList, scan, List.foldl_cons, hopen, ← scan,
    scan_append, scan_literalChars]
  rfl

/-! ### Plain texts and scalars -/

/-- A text that has no connective outside parentheses, and no BETWEEN. -/
def Dialect.IsPlain (d : Dialect) (s : String) : Prop :=
  ∃ is, d.items? s = some is ∧ is ≠ [] ∧ ∀ i ∈ is, i.isPlain = true

/-- Whether an item relates what stands before it to what stands after it. -/
def Item.isOperator (i : Item) : Bool :=
  i == .token (.symbol '=') || i == .token (.symbol '<') || i == .token (.symbol '>') ||
    i.isKeyword "IS" || i.isKeyword "IN" || i.isKeyword "NOT"

/-- Whether an item can belong to a single value: a literal, a placeholder or a sign. -/
def Item.isScalarPart : Item → Bool
  | .token (.word cs) => (Item.token (.word cs)).isPlain && !(Item.token (.word cs)).isOperator
  | .token (.quoted _ _) => true
  | .token (.symbol c) => c == '-'
  | .group _ _ => false

/-- A text that stands for a single value. -/
def Dialect.IsScalar (d : Dialect) (s : String) : Prop :=
  ∃ is, d.items? s = some is ∧ is ≠ [] ∧ ∀ i ∈ is, i.isScalarPart = true

lemma Item.isPlain_of_isScalarPart {i : Item} (h : i.isScalarPart = true) : i.isPlain = true := by
  match i with
  | .token (.word cs) =>
    rw [isScalarPart, Bool.and_eq_true] at h
    exact h.1
  | .token (.quoted _ _) => rfl
  | .token (.symbol _) => rfl
  | .group _ _ => simp [isScalarPart] at h

lemma Dialect.IsScalar.isPlain (h : d.IsScalar s) : d.IsPlain s := by
  obtain ⟨is, his, hne, hscalar⟩ := h
  exact ⟨is, his, hne, fun i hi => Item.isPlain_of_isScalarPart (hscalar i hi)⟩

/-- A literal or a placeholder that is one token is a scalar. -/
lemma isScalar_of_tokens {t : Token} (h : tokens? d s = some [t])
    (ht : (Item.token t).isScalarPart = true) : d.IsScalar s := by
  have hparens : t ≠ .symbol '(' ∧ t ≠ .symbol ')' := by
    constructor <;> (rintro rfl; simp [Item.isScalarPart] at ht)
  refine ⟨[.token t], Dialect.items?_eq_some.mpr ⟨_, h, ?_⟩, by simp, by simpa using ht⟩
  exact items?_of_foldlM (by simp [Formula.push, hparens])

/-- The letters of the keywords that no value holds. -/
def keywordLetters : List Char := ['A', 'N', 'D', 'O', 'R', 'B', 'E', 'T', 'W', 'I', 'S']

/-- A word is a keyword only if it is made of its letters. -/
lemma isScalarPart_word (h : ∃ c ∈ cs, c.toUpper ∉ keywordLetters) :
    (Item.token (.word cs)).isScalarPart = true := by
  obtain ⟨c, hc, hupper⟩ := h
  have hkeyword (keyword : String) (hsub : keyword.toList ⊆ keywordLetters) :
      (Item.token (.word cs)).isKeyword keyword = false := by
    rw [Item.isKeyword, beq_eq_false_iff_ne]
    intro heq
    exact hupper (hsub (heq ▸ List.mem_map_of_mem hc))
  simp [Item.isScalarPart, Item.isPlain, Item.isOperator, hkeyword "AND" (by decide),
    hkeyword "OR" (by decide), hkeyword "BETWEEN" (by decide), hkeyword "IS" (by decide),
    hkeyword "IN" (by decide), hkeyword "NOT" (by decide)]

lemma isScalar_quoteText (d : Dialect) (s : String) : d.IsScalar (d.quoteText s) :=
  isScalar_of_tokens (tokens?_quoteText d s) rfl

/-- A word with a character that stands in no keyword. -/
lemma isScalar_of_word (h : s.toList = c :: cs) (hc : startsWord c = true)
    (hcs : ∀ c ∈ cs, isTokenChar c = true)
    (hscalar : ∃ c' ∈ c :: cs, c'.toUpper ∉ keywordLetters) : d.IsScalar s :=
  isScalar_of_tokens (tokens?_word h hc hcs) (isScalarPart_word hscalar)

/-! ### Numbers -/

/-- Whether a character belongs to a number without a sign. -/
def isNumberChar (c : Char) : Bool := c.isDigit || c == '.'

lemma isTokenChar_of_isNumberChar (h : isNumberChar c = true) : isTokenChar c = true := by
  simp only [isNumberChar, Bool.or_eq_true, beq_iff_eq] at h
  rcases h with h | rfl
  · simp [isTokenChar, Char.isAlphanum, h]
  · decide

/-- No letter of a numeral is one of a keyword. -/
lemma toUpper_of_isNumberChar (h : isNumberChar c = true) :
    c.toUpper ∉ keywordLetters := by
  simp only [isNumberChar, Bool.or_eq_true, beq_iff_eq] at h
  rcases h with h | rfl
  · have hupper : c.toUpper = c := by
      rw [Char.toUpper, dif_neg]
      rintro ⟨ha, -⟩
      simp only [Char.isDigit, Bool.and_eq_true, decide_eq_true_eq] at h
      have hlow : 97 ≤ c.val.toNat := ha
      have hhigh : c.val.toNat ≤ 57 := h.2
      omega
    have hletters : ∀ c' ∈ keywordLetters, c'.isDigit = false := by simp [keywordLetters]
    rw [hupper]
    intro hmem
    rw [hletters c hmem] at h
    exact absurd h (by decide)
  · decide

lemma isScalar_number (hne : cs ≠ []) (h : ∀ c ∈ cs, isNumberChar c = true) :
    d.IsScalar (.ofList cs) := by
  obtain ⟨c, cs, rfl⟩ := List.exists_cons_of_ne_nil hne
  rw [List.forall_mem_cons] at h
  exact isScalar_of_word (String.toList_ofList ..)
    (by rw [startsWord, isTokenChar_of_isNumberChar h.1, Bool.true_or])
    (fun c' hc' => isTokenChar_of_isNumberChar (h.2 c' hc'))
    ⟨c, List.mem_cons_self, toUpper_of_isNumberChar h.1⟩

/-- A number may have a sign before it. -/
lemma isScalar_append_minus (h : d.IsScalar s) : d.IsScalar ("-" ++ s) := by
  obtain ⟨is, his, -, hscalar⟩ := h
  have hminus : d.items? "-" = some [.token (.symbol '-')] := by cases d <;> rfl
  refine ⟨_, Dialect.items?_append hminus his (.inl (by decide)), by simp, ?_⟩
  rw [List.forall_mem_append]
  exact ⟨by decide, hscalar⟩

lemma isNumberChar_of_mem_toString {n : Nat} (h : c ∈ (toString n).toList) :
    isNumberChar c = true := by
  have hdigit : c.isDigit = true := by
    rw [Nat.toString_eq_ofList_toDigits, String.toList_ofList] at h
    exact Nat.isDigit_of_mem_toDigits (by decide) (by decide) h
  rw [isNumberChar, hdigit, Bool.true_or]

lemma isScalar_toString_nat (n : Nat) : d.IsScalar (toString n) := by
  have hne : (toString n).toList ≠ [] := by
    rw [Nat.toString_eq_ofList_toDigits, String.toList_ofList]
    exact Nat.toDigits_ne_nil
  have hchars : d.IsScalar (.ofList (toString n).toList) :=
    isScalar_number hne fun c hc => isNumberChar_of_mem_toString hc
  rwa [String.ofList_toList] at hchars

lemma isScalar_toString_int (i : Int) : d.IsScalar (toString i) := by
  cases i with
  | ofNat n => exact isScalar_toString_nat n
  | negSucc n => exact isScalar_append_minus (isScalar_toString_nat (n + 1))

namespace Double

/-- The digits of a shortest decimal. -/
lemma isNumberChar_of_mem_digits {tie : Tie} {significand exponent : Nat} {c : Char}
    (h : c ∈ (shortest tie significand exponent).digits) : isNumberChar c = true := by
  unfold shortest at h
  dsimp only at h
  generalize hfound : List.findSome? _ (List.range 17) = found at h
  cases found with
  | none =>
    obtain rfl := List.mem_singleton.mp h
    decide
  | some decimal =>
    obtain ⟨n, -, hn⟩ := List.exists_of_findSome?_eq_some hfound
    unfold decimalOfLength at hn
    obtain ⟨m, -, rfl⟩ := Option.map_eq_some_iff.mp hn
    have hmem := List.dropWhile_sublist _ |>.mem (List.mem_reverse.mp h)
    exact isNumberChar_of_mem_toString (List.mem_reverse.mp hmem)

/-- A sign before a scalar leaves it one. -/
lemma isScalar_signed {d : Dialect} (negative : Bool) {cs : List Char}
    (h : d.IsScalar (.ofList cs)) : d.IsScalar (signed negative cs) := by
  cases negative with
  | false => exact h
  | true =>
    have hsigned : signed true cs = "-" ++ .ofList cs := by
      apply String.toList_injective
      simp [signed]
    rw [hsigned]
    exact isScalar_append_minus h

lemma positional_ne_nil (decimal : Decimal) : positional decimal ≠ [] := by
  unfold positional
  split_ifs with hpoint
  · simp
  · dsimp only
    split_ifs with hwhole
    · simp
    · intro hnil
      rw [List.append_eq_nil_iff, List.replicate_eq_nil_iff] at hnil
      obtain ⟨hdigits, hzeros⟩ := hnil
      rw [hdigits, List.length_nil] at hzeros
      omega

lemma isNumberChar_of_mem_positional {decimal : Decimal} {c : Char}
    (hdigits : ∀ c ∈ decimal.digits, isNumberChar c = true) (h : c ∈ positional decimal) :
    isNumberChar c = true := by
  have hzero (n : Nat) (h : c ∈ List.replicate n '0') : isNumberChar c = true := by
    rw [List.eq_of_mem_replicate h]
    decide
  unfold positional at h
  dsimp only at h
  split_ifs at h
  · simp only [List.mem_cons, List.mem_append] at h
    rcases h with rfl | rfl | h | h
    · decide
    · decide
    · exact hzero _ h
    · exact hdigits c h
  · simp only [List.mem_append, List.mem_cons] at h
    rcases h with h | rfl | h
    · exact hdigits c (List.mem_of_mem_take h)
    · decide
    · exact hdigits c (List.mem_of_mem_drop h)
  · rcases List.mem_append.mp h with h | h
    · exact hdigits c h
    · exact hzero _ h

/-- A float is written as a scalar, even one that is no number. -/
lemma isScalar_plain {d : Dialect} (x : Double) : d.IsScalar x.plain := by
  match x with
  | nan =>
    have hword : tokens? d "NaN" = some [.word ['N', 'a', 'N']] := by cases d <;> rfl
    exact isScalar_of_tokens hword rfl
  | infinite negative =>
    have hword : tokens? d (.ofList ['i', 'n', 'f']) = some [.word ['i', 'n', 'f']] := by
      cases d <;> rfl
    exact isScalar_signed negative (isScalar_of_tokens hword rfl)
  | finite negative significand exponent _ =>
    rw [plain]
    split_ifs
    · have hword : tokens? d (.ofList ['0']) = some [.word ['0']] := by cases d <;> rfl
      exact isScalar_signed negative (isScalar_of_tokens hword rfl)
    · refine isScalar_signed negative (isScalar_number (positional_ne_nil _) fun c hc => ?_)
      exact isNumberChar_of_mem_positional (fun c hc => isNumberChar_of_mem_digits hc) hc

end Double

/-! ### Values -/

/-- The literal of a value is a scalar. -/
lemma isScalar_literal (d : Dialect) (v : Value) : d.IsScalar (d.literal v) := by
  cases v with
  | null =>
    have hword : tokens? d "NULL" = some [.word "NULL".toList] := by cases d <;> rfl
    exact isScalar_of_tokens hword rfl
  | bool b =>
    have hword : tokens? d (d.boolLiteral b) = some [.word (d.boolLiteral b).toList] := by
      cases d <;> cases b <;> rfl
    exact isScalar_of_tokens hword (by cases d <;> cases b <;> rfl)
  | int n => exact isScalar_toString_int n.toInt
  | float x => exact x.isScalar_plain
  | text s => exact isScalar_quoteText d s
  | dateTime t => exact isScalar_quoteText d t.text
  | date t => exact isScalar_quoteText d t.text

lemma isTokenChar_of_isAlphanum (h : c.isAlphanum = true) : isTokenChar c = true := by
  rw [isTokenChar, h]
  rfl

/-- The base of a placeholder has letters and digits only. -/
lemma isAlphanum_of_mem_base {hint : String} (h : c ∈ (Binding.base hint).toList) :
    c.isAlphanum = true := by
  unfold Binding.base at h
  cases hchars : hint.toList.filter Char.isAlphanum with
  | nil =>
    rw [hchars] at h
    obtain rfl := List.mem_singleton.mp h
    rfl
  | cons first rest =>
    rw [hchars] at h
    have hmem : c ∈ first :: rest := by simpa using h
    rw [← hchars] at hmem
    exact (List.mem_filter.mp hmem).2

/-- A placeholder is one word; no keyword starts with a colon. -/
lemma isScalar_placeholder (d : Dialect) (hint : String) (n : Nat) :
    d.IsScalar (Binding.placeholder (Binding.base hint) n) := by
  refine isScalar_of_word (Binding.toList_placeholder _ _) (by decide) (fun c hc => ?_)
    ⟨':', List.mem_cons_self, by decide⟩
  rcases List.mem_append.mp hc with hc | hc
  · exact isTokenChar_of_isAlphanum (isAlphanum_of_mem_base hc)
  · exact isTokenChar_of_isNumberChar (isNumberChar_of_mem_toString hc)

/-- Whatever stands for a value is one scalar. -/
lemma Binding.isScalar_bind (b : Binding) (hint : String) (v : Value) :
    b.dialect.IsScalar (b.bind hint v).1 := by
  unfold Binding.bind
  split
  · exact isScalar_literal b.dialect v
  · exact isScalar_placeholder b.dialect hint _

/-- Whatever stands for a value is plain. -/
theorem Binding.isPlain_bind (b : Binding) (hint : String) (v : Value) :
    b.dialect.IsPlain (b.bind hint v).1 := (b.isScalar_bind hint v).isPlain

end SqlCompose
