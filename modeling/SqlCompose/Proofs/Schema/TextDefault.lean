import Mathlib
import SqlCompose.Proofs.Schema.Cast
import SqlCompose.Proofs.Schema.Key
import SqlCompose.Proofs.Text.Blank
import SqlCompose.Proofs.Text.Split

/-!
# Texts as defaults

A catalog writes a text that is a default as a literal, often with a cast after it and in
parentheses. The parentheses are dropped, then everything from the first pair of colons on, then the
quotes. A pair of colons inside the literal is taken for a cast, so a text is read back exactly if
it has none.
-/

namespace SqlCompose

namespace Catalog

variable {d : Dialect} {s rest before after v x y : List Char} {c : Char} {n fuel : ℕ}

/-! ### Default expressions -/

/-- The mark of a cast. -/
def castMark : List Char := [':', ':']

def literal (v : List Char) : List Char := '\'' :: (Chars.doubled '\'' v ++ ['\''])

/-- A cast to a type, or none. -/
def castText : Option (List Char) → List Char
  | none => []
  | some typeName => castMark ++ typeName

/-- A text in so many pairs of parentheses. -/
def parenthesized : (pairs : ℕ) → List Char → List Char
  | 0, s => s
  | pairs + 1, s => '(' :: (parenthesized pairs s ++ [')'])

/-- The default expression of a text. -/
def textDefault (v : String) (typeName : Option String) (pairs : ℕ) : String :=
  .ofList (parenthesized pairs (literal v.toList ++ castText (typeName.map String.toList)))

/-! ### Parentheses -/

lemma between?_cons_concat (opening closing : Char) (s : List Char) :
    between? opening closing (opening :: (s ++ [closing])) = some s := by
  simp [between?]

/-- A text between two characters is wrapped in them. -/
lemma eq_of_between? {opening closing : Char} (h : between? opening closing s = some x) :
    s = opening :: (x ++ [closing]) := by
  unfold between? at h
  split at h
  · rename_i c rest
    split at h
    · rename_i d inside hreverse
      split at h
      · rename_i hends
        obtain ⟨rfl, rfl⟩ := hends
        obtain rfl := Option.some.inj h
        rw [← List.reverse_cons, ← hreverse, List.reverse_reverse]
      · cases h
    · cases h
  · cases h

lemma between?_eq_none {opening closing : Char} (h : s.head? ≠ some opening) :
    between? opening closing s = none := by
  cases hbetween : between? opening closing s with
  | none => rfl
  | some inside =>
    rw [eq_of_between? hbetween] at h
    exact absurd rfl h

/-- A text in parentheses has no blanks at its ends. -/
lemma trim_parenthesized_succ (n : ℕ) (s : List Char) :
    Chars.trim (parenthesized (n + 1) s) = parenthesized (n + 1) s := by
  have hends : isBlank '(' = false ∧ isBlank ')' = false := by decide
  apply Chars.trim_eq_self
  · simpa [parenthesized] using hends.1
  · rw [parenthesized, ← List.cons_append, List.getLast?_concat]
    simpa using hends.2

/-- There are enough rounds for all pairs of parentheses. -/
lemma le_length_trim_parenthesized (n : ℕ) (s : List Char) :
    n ≤ (Chars.trim (parenthesized n s)).length := by
  have hlength (n : ℕ) : n ≤ (parenthesized n s).length := by
    induction n with
    | zero => exact Nat.zero_le _
    | succ n ih =>
      rw [parenthesized, List.length_cons]
      exact Nat.succ_le_succ (ih.trans (by simp))
  cases n with
  | zero => exact Nat.zero_le _
  | succ n =>
    rw [trim_parenthesized_succ]
    exact hlength (n + 1)

/-- All parentheses are dropped from around a text that does not start with one. -/
lemma unwrap_trim_parenthesized (hs : (Chars.trim s).head? ≠ some '(') (hfuel : n ≤ fuel) :
    unwrap fuel (Chars.trim (parenthesized n s)) = Chars.trim s := by
  induction n generalizing fuel with
  | zero =>
    cases fuel with
    | zero => rfl
    | succ fuel => rw [unwrap, parenthesized, between?_eq_none hs]
  | succ n ih =>
    obtain ⟨fuel, rfl⟩ := Nat.exists_eq_add_of_le' (Nat.zero_lt_of_lt hfuel)
    rw [trim_parenthesized_succ, parenthesized, unwrap, between?_cons_concat]
    exact ih (Nat.le_of_succ_le_succ hfuel)

/-! ### Casts -/

/-- A text without what stands from the first mark of a cast on. -/
def withoutCast (s : List Char) : List Char :=
  match Chars.splitFirst castMark s with
  | some (before, _) => Chars.trim before
  | none => s

/-- The text of a literal, or a text that is neither null nor a name nor a call. -/
def unquoted? (s : List Char) : Option String :=
  if Text.equalsIgnoringCase (.ofList s) "null" then none
  else match between? '\'' '\'' s with
    | some inside => some (.ofList (Chars.replace ['\'', '\''] ['\''] inside))
    | none =>
      if s.contains '(' || s.all (fun c => c.isAlpha || c == '_') then none
      else some (.ofList s)

lemma default?_eq (raw : String) : default? raw = unquoted? (withoutCast
    (unwrap (Chars.trim raw.toList).length (Chars.trim raw.toList))) := rfl

lemma splitFirst_castMark_cons (h : ¬castMark <+: c :: s) :
    Chars.splitFirst castMark (c :: s) =
      (Chars.splitFirst castMark s).map (Prod.map (c :: ·) id) := by
  rw [← List.isPrefixOf_iff_prefix] at h
  rw [Chars.splitFirst, if_neg h]
  rfl

lemma castMark_not_prefix_quote (s : List Char) : ¬castMark <+: '\'' :: s := by simp [castMark]

/-- What follows a colon in a literal without marks is no colon, be it in the text or the closing
quote. -/
lemma castMark_not_prefix_cons (h : ¬castMark <:+: c :: v) (rest : List Char) :
    ¬castMark <+: c :: (Chars.doubled '\'' v ++ '\'' :: rest) := by
  intro hpair
  obtain ⟨rfl, after, hafter⟩ := List.cons_prefix_cons.mp hpair
  have hhead : (Chars.doubled '\'' v ++ '\'' :: rest).head? = some ':' := by rw [← hafter]; rfl
  rw [List.head?_append, Chars.head?_doubled] at hhead
  cases v with
  | nil => cases hhead
  | cons c' v =>
    obtain rfl := Option.some.inj hhead
    exact h (List.prefix_append castMark v).isInfix

/-- Doubling its quotes makes no mark of a cast in a text. -/
lemma splitFirst_doubled (h : ¬castMark <:+: v) (rest : List Char) :
    Chars.splitFirst castMark (Chars.doubled '\'' v ++ '\'' :: rest) =
      (Chars.splitFirst castMark rest).map (Prod.map (Chars.doubled '\'' v ++ ['\''] ++ ·) id) := by
  induction v with
  | nil => exact splitFirst_castMark_cons (castMark_not_prefix_quote rest)
  | cons c v ih =>
    have hv : ¬castMark <:+: v := fun hv => h (List.infix_cons hv)
    by_cases hc : c = '\''
    · subst hc
      rw [Chars.doubled_quote_cons, List.cons_append, List.cons_append,
        splitFirst_castMark_cons (castMark_not_prefix_quote _),
        splitFirst_castMark_cons (castMark_not_prefix_quote _), ih hv, Option.map_map,
        Option.map_map]
      rfl
    · rw [Chars.doubled_cons hc, List.cons_append,
        splitFirst_castMark_cons (castMark_not_prefix_cons h rest), ih hv, Option.map_map]
      rfl

/-- The first mark of a cast stands after the literal if there is none in it. -/
lemma splitFirst_literal (h : ¬castMark <:+: v) (rest : List Char) :
    Chars.splitFirst castMark (literal v ++ rest) =
      (Chars.splitFirst castMark rest).map (Prod.map (literal v ++ ·) id) := by
  rw [literal, List.cons_append, List.append_assoc, List.singleton_append,
    splitFirst_castMark_cons (castMark_not_prefix_quote _), splitFirst_doubled h, Option.map_map]
  rfl

/-- What stands before the first mark of a cast stands before any other, too. -/
lemma exists_splitFirst_castMark (x y : List Char) :
    ∃ before after, Chars.splitFirst castMark (x ++ castMark ++ y) = some (before, after) ∧
      before <+: x := by
  induction x with
  | nil => exact ⟨[], y, rfl, List.nil_prefix⟩
  | cons c x ih =>
    rw [List.cons_append, List.cons_append, Chars.splitFirst]
    split
    · exact ⟨[], _, rfl, List.nil_prefix⟩
    · obtain ⟨before, after, hfirst, hbefore⟩ := ih
      rw [hfirst]
      exact ⟨c :: before, after, rfl, List.cons_prefix_cons.mpr ⟨rfl, hbefore⟩⟩

lemma trim_literal (v : List Char) : Chars.trim (literal v) = literal v := by
  have hquote : isBlank '\'' = false := by decide
  apply Chars.trim_eq_self
  · simpa [literal] using hquote
  · rw [literal, ← List.cons_append, List.getLast?_concat]
    simpa using hquote

/-- Trimming a literal with a cast trims the name of the type. -/
lemma exists_trim_literal (v : List Char) (typeName : Option (List Char)) :
    ∃ typeName', Chars.trim (literal v ++ castText typeName) = literal v ++ castText typeName' := by
  cases typeName with
  | none => exact ⟨none, by rw [castText, List.append_nil, trim_literal]⟩
  | some typeName =>
    have hcolon : isBlank ':' = false := by decide
    have hstart : Chars.trimStart (literal v ++ castText (some typeName)) =
        (literal v ++ [':']) ++ ':' :: typeName := by
      rw [Chars.trimStart_eq_self (by simp [literal]; decide)]
      simp [castText, castMark]
    refine ⟨some (Chars.trimEnd typeName), ?_⟩
    rw [Chars.trim, hstart, Chars.trimEnd_append_cons hcolon, castText]
    simp [castMark]

/-- The cast behind a literal is dropped, and nothing of the literal. -/
lemma withoutCast_literal (h : ¬castMark <:+: v) (typeName : Option (List Char)) :
    withoutCast (literal v ++ castText typeName) = literal v := by
  rw [withoutCast, splitFirst_literal h]
  cases typeName with
  | none =>
    rw [castText, List.append_nil]
    rfl
  | some typeName =>
    have hmark : Chars.splitFirst castMark (castMark ++ typeName) = some ([], typeName) := rfl
    rw [castText, hmark, Option.map_some]
    exact (congrArg Chars.trim (List.append_nil _)).trans (trim_literal v)

/-! ### Quotes -/

/-- Undoubling the quotes leaves all other characters. -/
lemma count_replace_quotes (hc : c ≠ '\'') (s : List Char) :
    (Chars.replace ['\'', '\''] ['\''] s).count c = s.count c := by
  induction s using Chars.replace_induction (p := ['\'', '\'']) (by simp) with
  | nil => rfl
  | place s ih =>
    rw [Chars.replace_append_self (by simp), List.count_append, List.count_append, ih]
    simp [hc.symm]
  | other x s hstart ih => rw [Chars.replace_cons _ hstart, List.count_cons, List.count_cons, ih]

lemma unquoted?_literal (v : List Char) : unquoted? (literal v) = some (.ofList v) := by
  have hnull : Text.equalsIgnoringCase (.ofList (literal v)) "null" = false := by
    rw [← Bool.not_eq_true, Text.equalsIgnoringCase, beq_iff_eq]
    intro h
    have hhead := congrArg (List.head? ∘ String.toList) h
    simp [Text.toLower, literal] at hhead
  rw [unquoted?, if_neg (by simp [hnull]), literal, between?_cons_concat]
  exact congrArg (some ∘ String.ofList) (Chars.replace_doubled '\'' v)

/-- Reading a text without its quotes adds no character. -/
lemma count_unquoted?_le (hc : c ≠ '\'') {r : String} (h : unquoted? s = some r) :
    r.toList.count c ≤ s.count c := by
  unfold unquoted? at h
  split at h
  · cases h
  · split at h
    · rename_i inside hinside
      obtain rfl := Option.some.inj h
      rw [String.toList_ofList, count_replace_quotes hc, eq_of_between? hinside,
        List.count_cons_of_ne hc.symm, List.count_append]
      exact Nat.le_add_right _ _
    · split at h
      · cases h
      · obtain rfl := Option.some.inj h
        rw [String.toList_ofList]

/-! ### Texts -/

/-- The colons of a mark in the text are lost. -/
lemma castMark_not_infix_of_read {typeName : Option (List Char)}
    (h : unquoted? (withoutCast (literal v ++ castText typeName)) = some (.ofList v)) :
    ¬castMark <:+: v := by
  rintro ⟨x, y, rfl⟩
  have hparts : literal (x ++ castMark ++ y) ++ castText typeName =
      ('\'' :: Chars.doubled '\'' x) ++ castMark ++
        (Chars.doubled '\'' y ++ ['\''] ++ castText typeName) := by
    have hdoubled : Chars.doubled '\'' castMark = castMark := by decide
    simp [literal, Chars.doubled_append, hdoubled]
  obtain ⟨before, after, hfirst, hbefore⟩ := exists_splitFirst_castMark
    ('\'' :: Chars.doubled '\'' x) (Chars.doubled '\'' y ++ ['\''] ++ castText typeName)
  rw [hparts, withoutCast, hfirst] at h
  have hread : (x ++ castMark ++ y).count ':' ≤ x.count ':' :=
    calc (x ++ castMark ++ y).count ':'
      _ ≤ (Chars.trim before).count ':' := by
        simpa only [String.toList_ofList] using count_unquoted?_le (by decide) h
      _ ≤ before.count ':' := (Chars.trim_infix before).sublist.count_le ':'
      _ ≤ ('\'' :: Chars.doubled '\'' x).count ':' := hbefore.sublist.count_le ':'
      _ = x.count ':' := by
        rw [List.count_cons_of_ne (by decide), Chars.count_doubled (by decide)]
  have hmark : castMark.count ':' = 2 := rfl
  rw [List.count_append, List.count_append, hmark] at hread
  omega

/-- A default expression of a text is read as the text exactly if it has no mark of a cast. -/
lemma default?_textDefault_iff (v : String) (typeName : Option String) (n : ℕ) :
    default? (textDefault v typeName n) = some v ↔ ¬castMark <:+: v.toList := by
  obtain ⟨typeName', htrim⟩ := exists_trim_literal v.toList (typeName.map String.toList)
  have hstart : (Chars.trim (literal v.toList ++ castText (typeName.map String.toList))).head? ≠
      some '(' := by
    rw [htrim]
    simp [literal]
  rw [default?_eq, textDefault, String.toList_ofList,
    unwrap_trim_parenthesized hstart (le_length_trim_parenthesized n _), htrim]
  refine ⟨fun h => ?_, fun h => ?_⟩
  · rw [← String.ofList_toList (s := v)] at h
    exact castMark_not_infix_of_read (by simpa only [String.toList_ofList] using h)
  · rw [withoutCast_literal h, unquoted?_literal, String.ofList_toList]

/-- A quote, single colons and parentheses inside the text are kept. -/
example : default? "(('it''s (a:b)'::character varying))" = some "it's (a:b)" := by decide +kernel

/-- The default of a column of texts that is read from a catalog. -/
lemma Describes.default_eq {row : Row} {c : ColumnSchema} {raw : String} (h : Describes d row c)
    (hdialect : d ∈ [.sqlite, .pgsql, .mssql]) (htextual : c.kind.isTextual = true)
    (hauto : (entry d row).autoIncrement = false) (hraw : (entry d row).rawDefault = some raw) :
    c.default = (default? raw).map .text := by
  have htext : defaultText? d (some raw) = default? raw := by
    simp only [List.mem_cons, List.not_mem_nil, or_false] at hdialect
    rcases hdialect with rfl | rfl | rfl <;> rw [defaultText?, Option.bind_some] <;> decide
  have hcast (s : String) : c.typecast (.text s) = .text s := by
    have hempty (_ : c.allowNull = true) (h : c.kind.isTextual = false) :
        Value.text s ≠ .text "" := by simp [h] at htextual
    have hnull : Value.text s ≠ .null := nofun
    rw [ColumnSchema.typecast_of_ne hnull hempty]
    cases hkind : c.kind <;> simp [hkind, ColumnType.isTextual] at htextual <;> rfl
  rw [h.default, hauto, if_neg (by decide), hraw, htext]
  exact congrArg (Option.map · _) (funext hcast)

lemma exists_getElem?_of_forall₂ {α β : Type} {R : α → β → Prop} {as as' : List α} {a : α}
    {bs : List β} (h : List.Forall₂ R (as ++ a :: as') bs) :
    ∃ b, bs[as.length]? = some b ∧ R a b := by
  induction as generalizing bs with
  | nil =>
    cases h with
    | cons hab _ => exact ⟨_, rfl, hab⟩
  | cons _ as ih =>
    cases h with
    | cons _ htail => exact ih htail

/-- A text that is the default of a column of texts is the default that is read from the catalog,
whatever the name of the type after it and however many parentheses around it, exactly if it has no
two colons next to each other. -/
theorem textDefault_kept_iff (hdialect : d ∈ [.sqlite, .pgsql, .mssql]) (name : String)
    (schema : Option String) {row : Row} {rowsBefore rowsAfter : List Row} {v : String}
    {typeName : Option String} {pairs : ℕ}
    (hnamed : ∀ r ∈ rowsBefore ++ row :: rowsAfter, columnName? r ≠ none)
    (htextual : (ColumnType.ofTypeName d (entry d row).typeName).isTextual = true)
    (hauto : (entry d row).autoIncrement = false)
    (hdefault : (entry d row).rawDefault = some (textDefault v typeName pairs)) :
    ∃ t c, table d name schema (rowsBefore ++ row :: rowsAfter) = .ok t ∧
      t.columns[rowsBefore.length]? = some c ∧ columnName? row = some c.name ∧
      (c.default = some (.text v) ↔ ¬"::".toList <:+: v.toList) := by
  obtain ⟨t', ht'⟩ := exists_addRows (d := d) hnamed (.new name schema)
  have ht : table d name schema (rowsBefore ++ row :: rowsAfter) = .ok t' := by
    rw [table, if_neg (by simp), ht']
  obtain ⟨c, hc, hdescribes⟩ := exists_getElem?_of_forall₂ (forall₂_table ht)
  have hkind : c.kind.isTextual = true := hdescribes.kind ▸ htextual
  refine ⟨t', c, ht, hc, hdescribes.name, ?_⟩
  rw [hdescribes.default_eq hdialect hkind hauto hdefault]
  rw [Option.map_eq_some_iff]
  simp only [Value.text.injEq, exists_eq_right]
  exact default?_textDefault_iff v typeName pairs

/-- Of a default with two colons only what stands before them is kept, with its opening quote. -/
theorem textDefault_kept_iff_doubleColon :
    let row : Row := .ofList [("name", .text "c"), ("type", .text "text"), ("notnull", .int 0),
      ("dflt_value", .text "'a::b'"), ("pk", .int 0)]
    (∀ r ∈ [] ++ row :: [], columnName? r ≠ none) ∧
    (ColumnType.ofTypeName .sqlite (entry .sqlite row).typeName).isTextual = true ∧
    (entry .sqlite row).autoIncrement = false ∧
    (entry .sqlite row).rawDefault = some (textDefault "a::b" none 0) ∧
    ∃ t c, table .sqlite "t" none [row] = .ok t ∧ t.columns[0]? = some c ∧
      c.default = some (.text "'a") ∧ c.default ≠ some (.text "a::b") := by
  intro row
  have hnamed : ∀ r ∈ [] ++ row :: [], columnName? r ≠ none := by
    simp only [List.nil_append, List.mem_singleton, forall_eq]
    decide +kernel
  have htextual :
      (ColumnType.ofTypeName .sqlite (entry .sqlite row).typeName).isTextual = true := by
    decide +kernel
  have hauto : (entry .sqlite row).autoIncrement = false := rfl
  have hdefault : (entry .sqlite row).rawDefault = some (textDefault "a::b" none 0) := by
    decide +kernel
  obtain ⟨t, c, ht, hc, -, hiff⟩ := textDefault_kept_iff (by decide) "t" none hnamed htextual hauto
    hdefault
  have hread : (table .sqlite "t" none [row]).map (fun t => t.columns[0]?.bind (·.default)) =
      .ok (some (.text "'a")) := by decide +kernel
  rw [List.nil_append] at ht
  rw [List.length_nil] at hc
  rw [ht, Except.map, hc] at hread
  exact ⟨hnamed, htextual, hauto, hdefault, t, c, ht, hc, Except.ok.inj hread,
    mt hiff.mp (not_not_intro ⟨['a'], ['b'], by decide⟩)⟩

end Catalog

end SqlCompose
