import Mathlib
import SqlCompose.Connection.Basic
import SqlCompose.Proofs.Modes
import SqlCompose.Proofs.Placeholders
import SqlCompose.Proofs.PseudoSyntax.Reference
import SqlCompose.Proofs.Text.Split

/-!
# Resolving the pseudo-syntax of a written statement

A command resolves the pseudo-syntax of the whole text of a statement. If no text of the caller uses
any, nothing of it is found outside the values: a placeholder holds none, and a literal is resolved
as if it stood alone. With placeholders the text that is sent is therefore the text that was
written. Inline, it differs from that by what the literals hold.
-/

namespace SqlCompose

open Fragment

/-! ### Texts without pseudo-syntax -/

/-- Whether a text uses no pseudo-syntax. -/
def IsPlainText (s : String) : Prop :=
  Text.contains "[[" s = false ∧ Text.contains "\x7b\x7b" s = false
  deriving Decidable

/-- Whether two marks next to each other open no reference. -/
def AreUnpaired (m m' : Option Char) : Prop := ∀ c ∈ openingBrackets, m = some c → m' ≠ some c

section Unpaired

variable {d : Dialect} {tablePrefix : String} {texts : List String} {l r ms : List (Option Char)}
  {cs : List Char}

lemma isChain_charMarks (h : ∀ c ∈ openingBrackets, ¬[c, c] <:+: cs) :
    (charMarks cs).IsChain AreUnpaired := by
  induction cs with
  | nil => exact .nil
  | cons c cs ih =>
    refine List.isChain_cons.mpr ⟨?_, ih fun b hb hpair => h b hb (hpair.trans ?_)⟩
    · intro m hm b hb hc hm'
      obtain rfl := Option.some.inj hc
      subst hm'
      obtain ⟨rest, rfl⟩ : ∃ rest, cs = c :: rest := by
        cases cs with
        | nil => simp at hm
        | cons c' rest => simpa [charMarks] using hm
      exact h _ hb (List.prefix_append [c, c] rest).isInfix
    · exact (List.suffix_cons c cs).isInfix

lemma IsPlainText.no_opening {s : String} (hs : IsPlainText s) {c : Char}
    (hc : c ∈ openingBrackets) : ¬[c, c] <:+: s.toList := by
  intro hpair
  have hcontains := Chars.contains_eq_true_iff.mpr hpair
  rcases List.mem_pair.mp hc with rfl | rfl
  · exact absurd (hs.1.symm.trans hcontains) (by decide)
  · exact absurd (hs.2.symm.trans hcontains) (by decide)

lemma isChain_bare (h : ∀ c ∈ cs, c ∉ openingBrackets) : (charMarks cs).IsChain AreUnpaired :=
  isChain_charMarks fun c hc hpair => h c (hpair.subset List.mem_cons_self) hc

lemma not_mem_openingBrackets_of_isInert {c : Char} (h : isInert c = true) :
    c ∉ openingBrackets := by
  intro hc
  rcases List.mem_pair.mp hc with rfl | rfl
  · exact absurd h (by decide)
  · exact absurd h (by decide)

/-- Where woven marks meet, one of the two is no bracket. -/
lemma areUnpaired_of_isLoose {m m' : Option Char}
    (h : m.any isLoose = true ∨ m'.any isLoose = true) : AreUnpaired m m' := by
  intro c hc hm hm'
  subst hm hm'
  rw [Option.any_some, or_self] at h
  rcases List.mem_pair.mp hc with rfl | rfl
  · exact absurd h (by decide)
  · exact absurd h (by decide)

/-- A quote that opens a name opens no reference, as the name does not start with it. -/
lemma isChain_quoted (hcs : (charMarks cs).IsChain AreUnpaired) (hopen : d.nameQuotes.1 ∉ cs) :
    (charMarks (d.nameQuotes.1 :: cs ++ [d.nameQuotes.2])).IsChain AreUnpaired := by
  have hclose : d.nameQuotes.2 ∉ openingBrackets := by cases d <;> decide
  rw [charMarks_append]
  refine List.isChain_append.mpr ⟨List.isChain_cons.mpr ⟨?_, hcs⟩, .singleton _, ?_⟩
  · intro m hm b _ hb hm'
    obtain rfl := Option.some.inj hb
    subst hm'
    obtain ⟨c, hc, heq⟩ := List.mem_map.mp (List.mem_of_mem_head? hm)
    obtain rfl := Option.some.inj heq
    exact hopen hc
  · intro m _ m' hm' b hb _ hb'
    obtain rfl := Option.some.inj hm'
    obtain rfl := Option.some.inj hb'
    exact hclose hb

/-- In marks that are woven from texts without pseudo-syntax no reference opens. -/
lemma Woven.isChain_areUnpaired (h : Woven d texts ms) (htexts : ∀ t ∈ texts, IsPlainText t) :
    ms.IsChain AreUnpaired := by
  induction h with
  | word h =>
    exact isChain_bare fun c hc => not_mem_openingBrackets_of_isInert (List.all_eq_true.mp h c hc)
  | cast => exact isChain_bare (by simp [openingBrackets])
  | part ht h =>
    exact isChain_charMarks fun c hc hpair => (htexts _ ht).no_opening hc (hpair.trans h)
  | @quoted t cs ht h hopen =>
    have hcs : (charMarks cs).IsChain AreUnpaired :=
      isChain_charMarks fun c hc hpair => (htexts _ ht).no_opening hc (hpair.trans h)
    rw [← List.cons_append]
    exact isChain_quoted hcs hopen
  | value => exact .singleton _
  | @glue l r _ _ h ihl ihr =>
    refine List.isChain_append.mpr ⟨ihl, ihr, ?_⟩
    intro m hm m' hm'
    apply areUnpaired_of_isLoose
    rcases h with h | h
    · rw [endsLoose, Option.mem_def.mp hm, Option.all_some] at h
      exact .inl h
    · rw [startsLoose, Option.mem_def.mp hm', Option.all_some] at h
      exact .inr h
  | trim _ _ ih => exact ih.left_of_append

/-- A text in which no reference opens but in the values is resolved value by value. -/
lemma resolveFrom_fillMarks (h : ms.IsChain AreUnpaired)
    (htexts : ∀ t ∈ texts, Reference.StandsAlone d tablePrefix t.toList)
    (hlength : texts.length = ms.count none) :
    Reference.resolveFrom d tablePrefix 0 (fillMarks ms texts) =
      fillMarks ms (texts.map (d.quoteSql tablePrefix)) := by
  induction ms generalizing texts with
  | nil => rfl
  | cons m ms ih =>
    have hrest := List.IsChain.tail h
    cases m with
    | none =>
      cases texts with
      | nil => simp at hlength
      | cons t texts =>
        rw [List.forall_mem_cons] at htexts
        rw [fillMarks, List.map_cons, fillMarks, htexts.1.resolve,
          ih hrest htexts.2 (by simpa using hlength), Dialect.quoteSql, String.toList_ofList]
    | some c =>
      have hnone : Reference.ofChars? (c :: fillMarks ms texts) = none := by
        refine Reference.ofChars?_cons_eq_none fun hc hhead => ?_
        cases ms with
        | nil => simp [fillMarks] at hhead
        | cons m ms =>
          cases m with
          | some c' =>
            obtain rfl := Option.some.inj hhead
            exact (List.isChain_cons_cons.mp h).1 _ hc rfl rfl
          | none =>
            cases texts with
            | nil => simp at hlength
            | cons t texts =>
              obtain ⟨b, hb, hforeign⟩ := (htexts t List.mem_cons_self).start
              rw [fillMarks, List.head?_append, hb] at hhead
              obtain rfl := Option.some.inj hhead
              exact hforeign hc
      rw [fillMarks, fillMarks, Reference.resolveFrom, hnone]
      exact congrArg (c :: ·) (ih hrest htexts (by simpa using hlength))

/-- A text without pseudo-syntax stays as it is. -/
lemma IsPlainText.quoteSql {s : String} (hs : IsPlainText s) : d.quoteSql tablePrefix s = s := by
  have hmarks : fillMarks (charMarks s.toList) [] = s.toList := by
    have happend := fillMarks_charMarks_append s.toList [] []
    rwa [fillMarks, List.append_nil, List.append_nil] at happend
  have hcount : (charMarks s.toList).count none = 0 := by
    rw [List.count_eq_zero]
    simp [charMarks]
  have hresolve : Reference.resolveFrom d tablePrefix 0 (fillMarks (charMarks s.toList) []) =
      fillMarks (charMarks s.toList) ([].map (d.quoteSql tablePrefix)) :=
    resolveFrom_fillMarks (isChain_charMarks fun c hc => hs.no_opening hc) (by simp) hcount.symm
  rw [List.map_nil, hmarks] at hresolve
  rw [Dialect.quoteSql, hresolve, String.ofList_toList]

end Unpaired

/-! ### What stands for a value -/

section Values

variable {d : Dialect} {tablePrefix s : String}

/-- A text of which no character is a colon or an opening bracket. -/
structure IsInertText (s : String) : Prop where
  ne_nil : s.toList ≠ []
  all : s.toList.all isInert = true

lemma IsInertText.standsAlone (h : IsInertText s) :
    Reference.StandsAlone d tablePrefix s.toList :=
  Reference.standsAlone_of_bare h.ne_nil fun c hc =>
    not_mem_openingBrackets_of_isInert (List.all_eq_true.mp h.all c hc)

/-- An inert text stays inert behind a minus sign. -/
lemma IsInertText.append_minus (h : IsInertText s) : IsInertText ("-" ++ s) where
  ne_nil := by simp
  all := by
    rw [String.toList_append, List.all_append, h.all]
    rfl

lemma isInertText_number {cs : List Char} (hne : cs ≠ []) (h : ∀ c ∈ cs, isNumberChar c = true) :
    IsInertText (.ofList cs) where
  ne_nil := by rwa [String.toList_ofList]
  all := by
    rw [String.toList_ofList]
    exact List.all_eq_true.mpr fun c hc => isInert_of_isNumberChar (h c hc)

lemma isInertText_toString_nat (n : Nat) : IsInertText (toString n) where
  ne_nil := by
    rw [Nat.toString_eq_ofList_toDigits, String.toList_ofList]
    exact Nat.toDigits_ne_nil
  all := all_isInert_toString n

lemma isInertText_toString_int (i : Int) : IsInertText (toString i) := by
  cases i with
  | ofNat n => exact isInertText_toString_nat n
  | negSucc n => exact (isInertText_toString_nat (n + 1)).append_minus

namespace Double

lemma isInertText_signed (negative : Bool) {cs : List Char} (h : IsInertText (.ofList cs)) :
    IsInertText (signed negative cs) := by
  cases negative with
  | false => exact h
  | true =>
    have hsigned : signed true cs = "-" ++ .ofList cs := by
      apply String.toList_injective
      simp [signed]
    rw [hsigned]
    exact h.append_minus

/-- The numeral of a float has no colon and no bracket. -/
lemma isInertText_plain (x : Double) : IsInertText x.plain := by
  match x with
  | nan => exact ⟨by decide, by decide⟩
  | infinite negative => exact isInertText_signed negative ⟨by decide, by decide⟩
  | finite negative significand exponent _ =>
    rw [plain]
    split_ifs
    · exact isInertText_signed negative ⟨by decide, by decide⟩
    · refine isInertText_signed negative (isInertText_number (positional_ne_nil _) fun c hc => ?_)
      exact isNumberChar_of_mem_positional (fun c hc => isNumberChar_of_mem_digits hc) hc

end Double

/-- The quotes of a string literal belong to no reference, so none reaches over them. -/
lemma standsAlone_quoteText (s : String) :
    Reference.StandsAlone d tablePrefix (d.quoteText s).toList := by
  rw [Dialect.quoteText, String.toList_ofList]
  exact Reference.standsAlone_of_foreign (by decide) (by decide)

/-- A literal is inert, or it is a quoted text. -/
lemma isInertText_literal_or (d : Dialect) (v : Value) :
    IsInertText (d.literal v) ∨ ∃ s, d.literal v = d.quoteText s := by
  cases v with
  | null => exact .inl (⟨by decide, by decide⟩ : IsInertText "NULL")
  | bool b =>
    refine .inl (?_ : IsInertText (d.boolLiteral b))
    cases d <;> cases b <;> exact ⟨by decide, by decide⟩
  | int n => exact .inl (isInertText_toString_int n.toInt)
  | float x => exact .inl x.isInertText_plain
  | text s => exact .inr ⟨s, rfl⟩
  | dateTime t => exact .inr ⟨t.text, rfl⟩
  | date t => exact .inr ⟨t.text, rfl⟩

/-- The literal of a value stands alone, whatever it looks like between its quotes. -/
lemma standsAlone_literal (v : Value) :
    Reference.StandsAlone d tablePrefix (d.literal v).toList := by
  obtain h | ⟨s, hs⟩ := isInertText_literal_or d v
  · exact h.standsAlone
  · exact hs ▸ standsAlone_quoteText s

/-- A placeholder has no opening bracket. -/
lemma IsPlaceholder.not_mem_openingBrackets (h : IsPlaceholder s) :
    ∀ c ∈ s.toList, c ∉ openingBrackets := by
  obtain ⟨name, hs, -, hname⟩ := h
  have hcolon : ':' ∉ openingBrackets := by simp [openingBrackets]
  rw [hs, List.forall_mem_cons]
  refine ⟨hcolon, fun c hc hbracket => ?_⟩
  have hchar := List.all_eq_true.mp hname c hc
  rcases List.mem_pair.mp hbracket with rfl | rfl
  · exact absurd hchar (by decide)
  · exact absurd hchar (by decide)

end Values

/-! ### The text that is sent -/

namespace Builder

variable {b : Builder} {s : Draft} {out : Built}

lemma isPlaceholder_of_mem_places (hmode : b.inlineValues = false) (h : b.write s = .ok out)
    {p : ValuePlace} (hp : p ∈ b.places s) : IsPlaceholder p.name := by
  have hmem : p.name ∈ (b.placed s).map Prod.fst :=
    map_name_places h ▸ List.mem_map_of_mem hp
  exact Binding.isPlaceholder_of_mem_placedNames (b := b.startFor s) hmode hmem

/-- Inline, each value is at its literal. -/
lemma name_of_mem_places_inline (hmode : b.inlineValues = true) (h : b.write s = .ok out)
    {p : ValuePlace} (hp : p ∈ b.places s) : p.name = b.dialect.literal p.value := by
  have hnames := Binding.placedNames_inline (b := b.startFor s) hmode (error?_eq_none_of_write h)
  have hvalues := congrArg (List.map b.dialect.literal) (map_value_places h)
  have hall : (b.places s).map ValuePlace.name =
      (b.places s).map fun p => b.dialect.literal p.value := by
    rw [map_name_places h]
    rw [List.map_map] at hvalues
    exact hnames.trans hvalues.symm
  exact List.map_inj_left.mp hall p hp

/-- Whatever stands for a value is resolved as if it stood alone. -/
lemma standsAlone_of_mem_places {tablePrefix : String} (h : b.write s = .ok out)
    {p : ValuePlace} (hp : p ∈ b.places s) :
    Reference.StandsAlone b.dialect tablePrefix p.name.toList := by
  cases hmode : b.inlineValues with
  | true =>
    rw [name_of_mem_places_inline hmode h hp]
    exact standsAlone_literal p.value
  | false =>
    have hplaceholder := isPlaceholder_of_mem_places hmode h hp
    refine Reference.standsAlone_of_bare ?_ hplaceholder.not_mem_openingBrackets
    obtain ⟨name, hname, -⟩ := hplaceholder
    rw [hname]
    exact List.cons_ne_nil _ _

end Builder

namespace Command

variable {c : Connection} {s : Draft} {out : Built}

/-- If no text of a written draft uses pseudo-syntax, sending the draft resolves only what stands
for the values, each value on its own. A placeholder always stays as it is, and a literal does if it
uses no pseudo-syntax. -/
theorem sql_ofBuilt (h : c.builder.write s = .ok out) (htexts : ∀ t ∈ s.texts, IsPlainText t) :
    ∃ (first : String) (places : List ValuePlace),
      out.sql = first ++ String.join (places.map fun p => p.name ++ p.after) ∧
      (ofBuilt c out).sql =
        first ++ String.join (places.map fun p => c.quoteSql p.name ++ p.after) ∧
      (places.map fun p => (p.name, p.value)) = c.builder.placed s ∧
      (c.inlineValues = true → ∀ p ∈ places, p.name = c.dialect.literal p.value) ∧
      (c.inlineValues = false ∨ (∀ p ∈ places, IsPlainText p.name) →
        (ofBuilt c out).sql = out.sql) := by
  let f := s.fragment c.builder.dialect c.builder.schema
  let places := c.builder.places s
  have herror : f.error? = none := Builder.error?_eq_none_of_write h
  have hwritten : out.sql = f.fill (places.map ValuePlace.name) := by
    rw [Builder.map_name_places h]
    exact Builder.sql_of_write h
  have hchain : f.marks.IsChain AreUnpaired :=
    (s.isWoven (List.Subset.refl _)).isChain_areUnpaired htexts
  have hlength : (places.map ValuePlace.name).length = f.marks.count none := by
    rw [Fragment.count_none_marks, List.length_map, ← Builder.map_value_places h, List.length_map]
  have halone : ∀ t ∈ places.map ValuePlace.name,
      Reference.StandsAlone c.dialect c.tablePrefix t.toList := by
    intro t ht
    obtain ⟨p, hp, rfl⟩ := List.mem_map.mp ht
    exact Builder.standsAlone_of_mem_places h hp
  have hsent : (ofBuilt c out).sql = f.fill (places.map fun p => c.quoteSql p.name) := by
    have hnames : (places.map fun p => c.quoteSql p.name) =
        (places.map ValuePlace.name).map (c.dialect.quoteSql c.tablePrefix) := by
      rw [List.map_map]
      rfl
    apply String.toList_injective
    rw [Fragment.toList_fill herror, hnames]
    change (c.dialect.quoteSql c.tablePrefix out.sql).toList = _
    rw [Dialect.quoteSql, String.toList_ofList, hwritten, Fragment.toList_fill herror]
    exact resolveFrom_fillMarks hchain halone hlength
  refine ⟨f.lead, places, ?_, ?_, Builder.map_places h, ?_, ?_⟩
  · exact hwritten.trans (Builder.fill_eq_places h ValuePlace.name)
  · exact hsent.trans (Builder.fill_eq_places h fun p => c.quoteSql p.name)
  · exact fun hmode p hp => Builder.name_of_mem_places_inline hmode h hp
  · intro hcase
    rw [hsent, hwritten]
    congr 1
    refine List.map_congr_left fun p hp => ?_
    rcases hcase with hmode | hplain
    · have hbare := (Builder.isPlaceholder_of_mem_places hmode h hp).not_mem_openingBrackets
      rw [Connection.quoteSql, Dialect.quoteSql, Reference.resolveFrom_bare hbare,
        String.ofList_toList]
    · exact (hplain p hp).quoteSql

/-- Rows are deleted by a text that looks like the name of a column. -/
def deleteByReference : Statement := .delete "t" (some (.compare "a" .eq (.value (.text "[[x]]"))))

/-- Without a prefix and without a schema, inline. -/
def inlineConnection : Connection := ⟨.mysql, "", none, true⟩

theorem sql_ofBuilt_deleteByReference :
    ∃ (out : Built) (places : List ValuePlace),
      inlineConnection.builder.write (.statement deleteByReference) = .ok out ∧
      (∀ t ∈ deleteByReference.texts, IsPlainText t) ∧
      (places.map fun p => (p.name, p.value)) = [("'[[x]]'", .text "[[x]]")] ∧
      out.sql = "DELETE FROM `t` WHERE `a` = '[[x]]'" ∧
      (ofBuilt inlineConnection out).sql = "DELETE FROM `t` WHERE `a` = '`x`'" := by
  have hwrite : inlineConnection.builder.write (.statement deleteByReference) =
      .ok ⟨"DELETE FROM `t` WHERE `a` = '[[x]]'", none⟩ := by decide +kernel
  have hplain : ∀ t ∈ deleteByReference.texts, IsPlainText t := by decide
  obtain ⟨first, places, -, -, hplaces, -, -⟩ :=
    sql_ofBuilt (s := .statement deleteByReference) hwrite hplain
  refine ⟨_, places, hwrite, hplain, hplaces.trans ?_, rfl, ?_⟩
  · decide +kernel
  · decide +kernel

end Command

end SqlCompose
