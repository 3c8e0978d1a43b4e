import Mathlib
import SqlCompose.Proofs.Reading.Predicate
import SqlCompose.Proofs.Text.Split

/-!
# Reading the names of columns

A name is quoted segment by segment. If no character in it is a quote of the dialect, each segment
is read as one quoted text, and the whole name as an operand.
-/

namespace SqlCompose

open Scanner

variable {d : Dialect} {name : String}

/-! ### Quoted segments -/

def Quote.ofName : Dialect → Quote
  | .sqlite | .mysql => back
  | .pgsql | .cubrid => double
  | .mssql => bracket

/-- Whether a token is a part of a quoted name: a segment, the dot after it, or the star. -/
def Token.isNamePart : Token → Bool
  | .quoted _ _ => true
  | .word cs => cs == ['.']
  | .symbol c => c == '*'

namespace Scanner

variable {s : Scanner} {ts : List Token} {cs cs' : List Char}

/-- The opening quote of a name starts a quoted token. -/
lemma step_nameQuote (hs : s.finish? = some ts) (hopen : ∀ q cs, s.mode ≠ .closed q cs) :
    step d s d.nameQuotes.1 = ⟨ts, .quoted (.ofName d) []⟩ := by
  have hstart (us : List Token) : start d us d.nameQuotes.1 = ⟨us, .quoted (.ofName d) []⟩ := by
    cases d <;> rfl
  have hchar : isTokenChar d.nameQuotes.1 = false := by cases d <;> rfl
  obtain ⟨us, mode⟩ := s
  cases mode with
  | outside =>
    obtain rfl := Option.some.inj hs
    exact hstart us
  | word cs =>
    obtain rfl := Option.some.inj hs
    rw [step, hchar, if_neg (by decide)]
    exact hstart _
  | quoted | escaped => simp [finish?] at hs
  | closed q cs => exact absurd rfl (hopen q cs)

/-- Inside the quotes of a name every character but the closing quote belongs to it. -/
lemma scan_nameChars (h : ∀ c ∈ cs', c ≠ d.nameQuotes.2) :
    scan d ⟨ts, .quoted (.ofName d) cs⟩ cs' = ⟨ts, .quoted (.ofName d) (cs ++ cs')⟩ := by
  have hclosing : (Quote.ofName d).closing = d.nameQuotes.2 := by cases d <;> rfl
  have hescapes : (Quote.ofName d).escapes d = false := by cases d <;> rfl
  induction cs' generalizing cs with
  | nil => rw [List.append_nil]; rfl
  | cons c cs' ih =>
    rw [List.forall_mem_cons] at h
    have hstep : step d ⟨ts, .quoted (.ofName d) cs⟩ c = ⟨ts, .quoted (.ofName d) (cs ++ [c])⟩ := by
      simp [step, hclosing, hescapes, h.1]
    rw [scan, List.foldl_cons, hstep, ← scan, ih h.2, List.append_assoc]
    rfl

/-- A segment without quotes in it is one quoted text. -/
lemma scan_quoteSegment (hs : s.finish? = some ts) (hopen : ∀ q cs, s.mode ≠ .closed q cs)
    (h : ∀ c ∈ name.toList, c ≠ d.nameQuotes.1 ∧ c ≠ d.nameQuotes.2) :
    scan d s (d.quoteSegment name).toList = ⟨ts, .closed (.ofName d) name.toList⟩ := by
  have hquoted : d.quoteSegment name =
      .ofList (d.nameQuotes.1 :: (name.toList ++ [d.nameQuotes.2])) := by
    have hmem : ¬name.toList.contains d.nameQuotes.1 = true := by
      rw [List.contains_iff_mem]
      intro hmem
      exact (h _ hmem).1 rfl
    exact if_neg hmem
  have hclosing : (Quote.ofName d).closing = d.nameQuotes.2 := by cases d <;> rfl
  have hclose : step d ⟨ts, .quoted (.ofName d) name.toList⟩ d.nameQuotes.2 =
      ⟨ts, .closed (.ofName d) name.toList⟩ := by
    rw [step, hclosing, if_pos rfl]
  rw [hquoted, String.toList_ofList, scan, List.foldl_cons, step_nameQuote hs hopen, ← scan,
    scan_append, scan_nameChars fun c hc => (h c hc).2]
  exact hclose

lemma scan_dot : scan d ⟨ts, .closed (.ofName d) cs⟩ ".".toList =
    ⟨ts ++ [.quoted (.ofName d) cs], .word ['.']⟩ := by
  cases d <;> rfl

lemma isNamePart_append_quoted {q : Quote} (hts : ∀ t ∈ ts, t.isNamePart = true) :
    ∀ t ∈ ts ++ [.quoted q cs], t.isNamePart = true := by
  rw [List.forall_mem_append]
  exact ⟨hts, by simp [Token.isNamePart]⟩

lemma isNamePart_append_dot (hts : ∀ t ∈ ts, t.isNamePart = true) :
    ∀ t ∈ ts ++ [.word ['.']], t.isNamePart = true := by
  rw [List.forall_mem_append]
  exact ⟨hts, by simp [Token.isNamePart]⟩

/-- Segments with a dot between neighbours. -/
lemma scan_segments {names : List String} (hs : s.finish? = some ts)
    (hopen : ∀ q cs, s.mode ≠ .closed q cs) (hts : ∀ t ∈ ts, t.isNamePart = true)
    (hne : names ≠ [])
    (h : ∀ name ∈ names, ∀ c ∈ name.toList, c ≠ d.nameQuotes.1 ∧ c ≠ d.nameQuotes.2) :
    ∃ us cs, scan d s (Text.join "." (names.map d.quoteSegment)).toList =
      ⟨us, .closed (.ofName d) cs⟩ ∧ ∀ u ∈ us, u.isNamePart = true := by
  unfold Text.join
  induction names generalizing s ts with
  | nil => exact absurd rfl hne
  | cons name names ih =>
    rw [List.forall_mem_cons] at h
    have hname := scan_quoteSegment hs hopen h.1
    cases names with
    | nil =>
      rw [List.map_cons, List.map_nil, String.intercalate_singleton]
      exact ⟨ts, name.toList, hname, hts⟩
    | cons next names =>
      obtain ⟨us, cs, hus, hparts⟩ := ih
        (s := ⟨ts ++ [.quoted (.ofName d) name.toList], .word ['.']⟩) rfl (by simp)
        (isNamePart_append_dot (isNamePart_append_quoted hts)) (by simp) h.2
      refine ⟨us, cs, ?_, hparts⟩
      rw [List.map_cons, List.map_cons, String.intercalate_cons_cons, String.toList_append,
        String.toList_append, scan_append, scan_append, hname, scan_dot]
      exact hus

/-- The name of a column without its table. -/
lemma exists_scan_columnSegment (hs : s.finish? = some ts) (hopen : ∀ q cs, s.mode ≠ .closed q cs)
    (hts : ∀ t ∈ ts, t.isNamePart = true)
    (h : ∀ c ∈ name.toList, c ≠ d.nameQuotes.1 ∧ c ≠ d.nameQuotes.2) :
    ∃ us, (scan d s (d.quoteColumnSegment name).toList).finish? = some us ∧ us ≠ [] ∧
      ∀ u ∈ us, u.isNamePart = true := by
  unfold Dialect.quoteColumnSegment
  split
  · rename_i hstar
    subst hstar
    have hscan : scan d s "*".toList = ⟨ts ++ [.symbol '*'], .outside⟩ := by
      have hstart (us : List Token) : start d us '*' = ⟨us ++ [.symbol '*'], .outside⟩ := by
        cases d <;> rfl
      obtain ⟨us, mode⟩ := s
      cases mode with
      | outside | word =>
        obtain rfl := Option.some.inj hs
        exact hstart _
      | quoted | escaped => simp [finish?] at hs
      | closed q cs => exact absurd rfl (hopen q cs)
    rw [hscan]
    refine ⟨_, rfl, by simp, ?_⟩
    rw [List.forall_mem_append]
    exact ⟨hts, by simp [Token.isNamePart]⟩
  · rw [scan_quoteSegment hs hopen h]
    exact ⟨_, rfl, by simp, isNamePart_append_quoted hts⟩

end Scanner

/-! ### Names as operands -/

/-- The characters that have a meaning in a name, or end it. -/
def nameMarks : List Char := ['(', '\x7b', '[', ']', '"', '\x60']

/-- A name without quotes, parentheses and pseudo-syntax. -/
def IsPlainName (name : String) : Prop := ∀ c ∈ name.toList, c ∉ nameMarks

/-- A plain name is quoted. -/
lemma IsPlainName.isVerbatimName (h : IsPlainName name) :
    Dialect.isVerbatimName name = false := by
  have hmark (c : Char) (hc : c ∈ nameMarks) : c ∉ name.toList := fun hmem => h c hmem hc
  have hbracket : Text.contains "[[" name = false := by
    rw [← Bool.not_eq_true]
    intro hcontains
    have hsub := Chars.contains_eq_true_iff.mp hcontains
    exact hmark '[' (by decide) (hsub.subset List.mem_cons_self)
  have hbrace : Text.contains "\x7b\x7b" name = false := by
    rw [← Bool.not_eq_true]
    intro hcontains
    have hsub := Chars.contains_eq_true_iff.mp hcontains
    exact hmark '\x7b' (by decide) (hsub.subset List.mem_cons_self)
  have hparen : name.toList.contains '(' = false := by
    rw [← Bool.not_eq_true, List.contains_iff_mem]
    exact hmark '(' (by decide)
  rw [Dialect.isVerbatimName, hparen, hbracket, hbrace]
  rfl

lemma IsPlainName.ne_nameQuotes (h : IsPlainName name) (d : Dialect) :
    ∀ c ∈ name.toList, c ≠ d.nameQuotes.1 ∧ c ≠ d.nameQuotes.2 := by
  have hquotes : d.nameQuotes.1 ∈ nameMarks ∧ d.nameQuotes.2 ∈ nameMarks := by cases d <;> decide
  intro c hc
  constructor
  · rintro rfl
    exact h _ hc hquotes.1
  · rintro rfl
    exact h _ hc hquotes.2

/-- The parts of a name are no parentheses, so each of them is an item. -/
lemma items?_of_isNamePart {ts : List Token} (h : ∀ t ∈ ts, t.isNamePart = true) {s : String}
    (hs : tokens? d s = some ts) : d.items? s = some (ts.map .token) := by
  have hitems (before : List Item) (ts : List Token) (h : ∀ t ∈ ts, t.isNamePart = true) :
      ts.foldlM Formula.push [before] = some [before ++ ts.map .token] := by
    induction ts generalizing before with
    | nil => rw [List.map_nil, List.append_nil]; rfl
    | cons t ts ih =>
      rw [List.forall_mem_cons] at h
      have hpush : Formula.push [before] t = some [before ++ [.token t]] := by
        have hparens : t ≠ .symbol '(' ∧ t ≠ .symbol ')' := by
          constructor <;> (rintro rfl; simp [Token.isNamePart] at h)
        simp [Formula.push, hparens]
      rw [List.foldlM_cons, hpush, Option.bind_eq_bind, Option.bind_some, ih _ h.2]
      simp
  exact Dialect.items?_eq_some.mpr ⟨ts, hs, items?_of_foldlM (hitems [] ts h)⟩

/-- No part of a name is a keyword. -/
lemma Token.isKeyword_of_isNamePart {t : Token} (h : t.isNamePart = true) {keyword : String}
    (hkeyword : keyword.toList ≠ ['.']) : (Item.token t).isKeyword keyword = false := by
  cases t with
  | quoted | symbol => rfl
  | word cs =>
    obtain rfl : cs = ['.'] := by simpa [Token.isNamePart] using h
    simpa [Item.isKeyword] using Ne.symm hkeyword

/-- A quoted name is an operand. -/
lemma isOperand_of_isNamePart {ts : List Token} (hne : ts ≠ [])
    (h : ∀ t ∈ ts, t.isNamePart = true) : IsOperand (ts.map .token) := by
  have hkeyword (keyword : String) (hne : keyword.toList ≠ ['.']) :
      ∀ t ∈ ts, (Item.token t).isKeyword keyword = false :=
    fun t ht => Token.isKeyword_of_isNamePart (h t ht) hne
  refine ⟨?_, by simpa using hne, ?_⟩
  · intro i hi
    obtain ⟨t, ht, rfl⟩ := List.mem_map.mp hi
    simp [Item.isPlain, hkeyword "AND" (by decide) t ht, hkeyword "OR" (by decide) t ht,
      hkeyword "BETWEEN" (by decide) t ht]
  · intro i hi
    obtain ⟨t, ht, rfl⟩ := List.mem_map.mp (List.mem_of_mem_head? hi)
    exact ⟨hkeyword "NOT" (by decide) t ht, hkeyword "SELECT" (by decide) t ht⟩

lemma isPlainName_ofList {piece : List Char} (h : IsPlainName name) (hpiece : piece ⊆ name.toList) :
    IsPlainName (.ofList piece) := by
  intro c hc
  rw [String.toList_ofList] at hc
  exact h c (hpiece hc)

/-- The table of a plain name is read up to its last quote. -/
lemma scan_quoteTable (d : Dialect) (h : IsPlainName name) :
    ∃ ts cs, scan d ⟨[], .outside⟩ (d.quoteTable name).toList = ⟨ts, .closed (.ofName d) cs⟩ ∧
      ∀ t ∈ ts, t.isNamePart = true := by
  have hnames : ∀ segment ∈ Text.split '.' name, IsPlainName segment := by
    intro segment hsegment
    obtain ⟨piece, hpiece, rfl⟩ := List.mem_map.mp hsegment
    exact isPlainName_ofList h fun c hc => (Chars.infix_of_mem_split hpiece).subset hc
  rw [Dialect.quoteTable, h.isVerbatimName, if_neg (by decide)]
  exact scan_segments rfl (by simp) (by simp)
    (by simpa [Text.split] using Chars.split_ne_nil '.' name.toList)
    fun segment hsegment => (hnames segment hsegment).ne_nameQuotes d

/-- The column of a plain name is read as the parts of the name. -/
lemma exists_nameParts_quoteColumn (d : Dialect) (h : IsPlainName name) :
    ∃ ts, tokens? d (d.quoteColumn name) = some ts ∧ ts ≠ [] ∧ ∀ t ∈ ts, t.isNamePart = true := by
  rw [Dialect.quoteColumn, h.isVerbatimName, if_neg (by decide)]
  cases hlast : Text.splitLast "." name with
  | none =>
    obtain ⟨us, hus, hne, hparts⟩ := exists_scan_columnSegment (d := d) (s := ⟨[], .outside⟩) rfl
      (by simp) (by simp) (h.ne_nameQuotes d)
    exact ⟨us, hus, hne, hparts⟩
  | some pair =>
    obtain ⟨⟨table, column⟩, hpieces, rfl⟩ := Option.map_eq_some_iff.mp hlast
    have hname := Chars.splitLast_eq_some hpieces
    have htable : IsPlainName (.ofList table) := isPlainName_ofList h (by simp [hname])
    have hcolumn : IsPlainName (.ofList column) := isPlainName_ofList h (by simp [hname])
    obtain ⟨ts, cs, hscan, hts⟩ := scan_quoteTable d htable
    obtain ⟨us, hus, hne, hparts⟩ := exists_scan_columnSegment (d := d)
      (s := ⟨ts ++ [.quoted (.ofName d) cs], .word ['.']⟩) rfl (by simp)
      (isNamePart_append_dot (isNamePart_append_quoted hts)) (hcolumn.ne_nameQuotes d)
    refine ⟨us, ?_, hne, hparts⟩
    dsimp only
    rw [tokens?, String.toList_append, String.toList_append, scan_append, scan_append, hscan,
      scan_dot, hus]

/-- The column of a plain name is an operand. -/
theorem isOperand_quoteColumn (d : Dialect) (h : IsPlainName name) :
    d.IsOperand (d.quoteColumn name) := by
  obtain ⟨ts, hts, hne, hparts⟩ := exists_nameParts_quoteColumn d h
  exact ⟨_, items?_of_isNamePart hparts hts, isOperand_of_isNamePart hne hparts⟩

end SqlCompose
