import Mathlib
import SqlCompose.Proofs.Outline.Write
import SqlCompose.Proofs.Woven.Query

/-!
# The order of the placeholders

The placeholders of a statement are read off its text from left to right. If the texts of a caller
hold no colon and bring no parameters, they are the names of the parameters in the order in which
these were bound, each of them once.
-/

namespace SqlCompose

open Fragment

/-- The placeholders of a text, from left to right; a double colon belongs to none. No character of
a placeholder but the first is a colon, so the rest of it is passed over as any other text. -/
def placeholdersOf : List Char → List String
  | [] => []
  | ':' :: ':' :: rest => placeholdersOf rest
  | ':' :: rest =>
    match rest.takeWhile isPlaceholderChar with
    | [] => placeholdersOf rest
    | name => .ofList (':' :: name) :: placeholdersOf rest
  | _ :: rest => placeholdersOf rest

/-- Whether a text is a colon with a name after it. -/
def IsPlaceholder (s : String) : Prop :=
  ∃ name, s.toList = ':' :: name ∧ name ≠ [] ∧ name.all isPlaceholderChar = true

/-! ### Reading placeholders -/

variable {c : Char} {name rest : List Char}

/-- Only a colon starts a placeholder. -/
lemma placeholdersOf_cons (hc : c ≠ ':') : placeholdersOf (c :: rest) = placeholdersOf rest := by
  rw [placeholdersOf]
  · exact fun _ h => absurd h hc
  · exact fun h => absurd h hc

lemma ne_colon_of_isPlaceholderChar (h : isPlaceholderChar c = true) : c ≠ ':' := by
  rintro rfl
  exact absurd h (by decide)

/-- Without a colon before it, a name is no placeholder. -/
lemma placeholdersOf_name_append (h : name.all isPlaceholderChar = true) :
    placeholdersOf (name ++ rest) = placeholdersOf rest := by
  induction name with
  | nil => rfl
  | cons c name ih =>
    rw [List.all_cons, Bool.and_eq_true] at h
    rw [List.cons_append, placeholdersOf_cons (ne_colon_of_isPlaceholderChar h.1), ih h.2]

/-- A placeholder is read up to the first character that cannot be part of it. -/
lemma placeholdersOf_placeholder_append (hne : name ≠ [])
    (hname : name.all isPlaceholderChar = true)
    (hrest : ∀ c ∈ rest.head?, isPlaceholderChar c = false) :
    placeholdersOf (':' :: (name ++ rest)) = .ofList (':' :: name) :: placeholdersOf rest := by
  have htake : (name ++ rest).takeWhile isPlaceholderChar = name := by
    rw [List.takeWhile_append_of_pos (by simpa using hname)]
    cases rest with
    | nil => simp
    | cons c rest => simp [hrest c rfl]
  obtain ⟨c, name, rfl⟩ := List.exists_cons_of_ne_nil hne
  rw [placeholdersOf, htake, placeholdersOf_name_append hname]
  intro rest' h
  rw [List.all_cons, Bool.and_eq_true] at hname
  exact ne_colon_of_isPlaceholderChar hname.1 (List.cons.inj h).1

/-! ### Tidy marks -/

/-- Marks in which colons come in pairs, and nothing that could be part of a placeholder stands
after a value. -/
inductive IsTidy : List (Option Char) → Prop
  | nil : IsTidy []
  | char {c : Char} {ms : List (Option Char)} (hc : c ≠ ':') (h : IsTidy ms) : IsTidy (some c :: ms)
  | cast {ms : List (Option Char)} (h : IsTidy ms) : IsTidy (some ':' :: some ':' :: ms)
  | value {ms : List (Option Char)} (h : IsTidy ms) (hnext : startsLoose ms = true) :
    IsTidy (none :: ms)

namespace IsTidy

variable {l r ms : List (Option Char)} {cs : List Char}

/-- A text without colons is tidy. -/
lemma charMarks (h : ':' ∉ cs) : IsTidy (charMarks cs) := by
  induction cs with
  | nil => exact nil
  | cons c cs ih =>
    rw [List.mem_cons, not_or] at h
    exact char (Ne.symm h.1) (ih h.2)

/-- Tidy texts that do not run into each other are tidy together. -/
lemma glue (hl : IsTidy l) (hr : IsTidy r) (h : endsLoose l = true ∨ startsLoose r = true) :
    IsTidy (l ++ r) := by
  have htail {m : Option Char} {l : List (Option Char)}
      (h : endsLoose (m :: l) = true ∨ startsLoose r = true) :
      endsLoose l = true ∨ startsLoose r = true := by
    cases l with
    | nil => exact .inl rfl
    | cons => exact h
  induction hl with
  | nil => exact hr
  | char hc _ ih => exact char hc (ih (htail h))
  | cast _ ih => exact cast (ih (htail (htail h)))
  | @value l _ hnext ih =>
    refine value (ih (htail h)) ?_
    cases l with
    | nil => exact h.resolve_left (by decide)
    | cons => exact hnext

/-- No blank is a colon, so dropping blanks at the end divides no pair. -/
lemma of_append_blanks (h : IsTidy (l ++ SqlCompose.charMarks cs))
    (hcs : cs.all isBlank = true) : IsTidy l := by
  generalize hms : l ++ SqlCompose.charMarks cs = ms at h
  induction h generalizing l with
  | nil =>
    obtain ⟨rfl, -⟩ := List.append_eq_nil_iff.mp hms
    exact nil
  | char hc _ ih =>
    rcases List.append_eq_cons_iff.mp hms with ⟨rfl, -⟩ | ⟨l, rfl, hl⟩
    · exact nil
    · exact char hc (ih hl.symm)
  | cast _ ih =>
    rcases List.append_eq_cons_iff.mp hms with ⟨rfl, -⟩ | ⟨l, rfl, hl⟩
    · exact nil
    · rcases List.append_eq_cons_iff.mp hl.symm with ⟨rfl, hcolon⟩ | ⟨l, rfl, hrest⟩
      · cases cs with
        | nil => simp [SqlCompose.charMarks] at hcolon
        | cons c cs =>
          obtain rfl : c = ':' := by simpa [SqlCompose.charMarks] using (List.cons.inj hcolon).1
          exact absurd hcs (by simp [SqlCompose.isBlank, blankRuns])
      · exact cast (ih hrest.symm)
  | value _ hnext ih =>
    rcases List.append_eq_cons_iff.mp hms with ⟨rfl, -⟩ | ⟨l, rfl, rfl⟩
    · exact nil
    · refine value (ih rfl) ?_
      cases l with
      | nil => rfl
      | cons => exact hnext

end IsTidy

/-- Marks that are woven from texts without a colon are tidy. -/
lemma Woven.isTidy {d : Dialect} {texts : List String} {ms : List (Option Char)}
    (h : Woven d texts ms) (htexts : ∀ t ∈ texts, ':' ∉ t.toList) : IsTidy ms := by
  induction h with
  | word h =>
    refine .charMarks fun hc => ?_
    exact absurd (List.all_eq_true.mp h ':' hc) (by decide)
  | cast => exact .cast .nil
  | part ht h => exact .charMarks fun hc => htexts _ ht (h.subset hc)
  | @quoted t cs ht h _ =>
    have hcs : ':' ∉ cs := fun hc => htexts t ht (h.subset hc)
    have hquotes : ':' ≠ d.nameQuotes.1 ∧ ':' ≠ d.nameQuotes.2 := by cases d <;> decide
    refine .charMarks ?_
    simp [hcs, hquotes]
  | value => exact .value .nil rfl
  | glue _ _ h ihl ihr => exact ihl.glue ihr h
  | trim _ hcs ih => exact ih.of_append_blanks hcs

/-- The mark after a value, if there is one, is a character that ends the placeholder. -/
lemma isPlaceholderChar_of_startsLoose {ms : List (Option Char)} {names : List String}
    (h : startsLoose ms = true) {c : Char} (hc : c ∈ (fillMarks ms names).head?) :
    isPlaceholderChar c = false := by
  cases ms with
  | nil => simp [fillMarks] at hc
  | cons m ms =>
    cases m with
    | none => simp [startsLoose] at h
    | some c' =>
      obtain rfl : c' = c := by simpa [fillMarks] using hc
      simp only [startsLoose, List.head?_cons, Option.all_some, Option.any_some, isLoose,
        Bool.and_eq_true, Bool.not_eq_true'] at h
      exact h.1.1

/-- In tidy marks exactly what stands for the values is read as placeholders. -/
lemma IsTidy.placeholdersOf_fillMarks {ms : List (Option Char)} (h : IsTidy ms)
    {names : List String} (hnames : ∀ n ∈ names, IsPlaceholder n)
    (hlength : names.length = ms.count none) : placeholdersOf (fillMarks ms names) = names := by
  induction h generalizing names with
  | nil =>
    obtain rfl : names = [] := by simpa using hlength
    rfl
  | char hc _ ih =>
    rw [fillMarks, placeholdersOf_cons hc]
    exact ih hnames (by simpa using hlength)
  | cast _ ih =>
    rw [fillMarks, fillMarks, placeholdersOf]
    exact ih hnames (by simpa using hlength)
  | @value ms _ hnext ih =>
    cases names with
    | nil => simp at hlength
    | cons n names =>
      rw [List.forall_mem_cons] at hnames
      obtain ⟨⟨name, hn, hne, hname⟩, hnames⟩ := hnames
      rw [fillMarks, hn, List.cons_append, placeholdersOf_placeholder_append hne hname,
        ih hnames (by simpa using hlength), ← hn, String.ofList_toList]
      exact fun c hc => isPlaceholderChar_of_startsLoose hnext hc

/-! ### The order of the parameters -/

namespace Binding

variable {b : Binding} {f : Fragment}

/-- What is placed for a value is a colon and a name. -/
lemma isPlaceholder_freshName (b : Binding) (hint : String) :
    IsPlaceholder (b.freshName hint) := by
  refine ⟨_, toList_placeholder _ _, ?_, ?_⟩
  · intro h
    have hdigits := (List.append_eq_nil_iff.mp h).2
    rw [Nat.toString_eq_ofList_toDigits, String.toList_ofList] at hdigits
    exact Nat.toDigits_ne_nil hdigits
  · rw [List.all_append, Bool.and_eq_true, List.all_eq_true, List.all_eq_true]
    constructor
    · intro c hc
      rw [isPlaceholderChar, isAlphanum_of_mem_base hc]
      rfl
    · intro c hc
      rw [Nat.toString_eq_ofList_toDigits, String.toList_ofList] at hc
      have hdigit := Nat.isDigit_of_mem_toDigits (by decide) (by decide) hc
      simp [isPlaceholderChar, Char.isAlphanum, hdigit]

lemma isPlaceholder_of_mem_placedNames (hmode : b.inline = false) {n : String}
    (hn : n ∈ b.placedNames f) : IsPlaceholder n := by
  induction f generalizing b with
  | nil => simp [placedNames, placed] at hn
  | cons piece rest ih =>
    cases piece with
    | text s => exact ih hmode hn
    | slot hint v =>
      rw [placedNames, placed, List.map_cons, List.mem_cons, bind_fst hmode] at hn
      rcases hn with rfl | hn
      · exact b.isPlaceholder_freshName hint
      · exact ih (by simpa using hmode) hn
    | supply params => exact ih (b := b.merge params) hmode hn
    | refusal e => simp [placedNames, placed] at hn

/-- Without parameters of its own, a fragment binds its placeholders in the order in which it
places them. -/
lemma names_write (hmode : b.inline = false) (h : f.error? = none)
    (hsupplies : ∀ m ∈ f.supplies, m = ∅) :
    (b.write f).2.params.names = b.params.names ++ b.placedNames f := by
  induction f generalizing b with
  | nil => simp [write, placedNames, placed]
  | cons piece rest ih =>
    cases piece with
    | text s => exact ih hmode h hsupplies
    | slot hint v =>
      rw [write, ih (by simpa using hmode) h hsupplies, bind_snd_params hmode,
        Params.names_insert, normalize_freshName, if_neg (b.freshName_not_mem_names hint)]
      simp [placedNames, placed, bind_fst hmode]
    | supply params =>
      have hparams : params = ∅ := hsupplies params List.mem_cons_self
      subst hparams
      exact ih (b := b.merge ∅) hmode h fun m hm => hsupplies m (List.mem_cons_of_mem _ hm)
    | refusal e => simp at h

/-- A value that is placed is bound at the end of the parameters. -/
lemma toList_bind (hmode : b.inline = false) (hint : String) (v : Value) :
    (b.bind hint v).2.params.toList =
      b.params.toList ++ [((b.bind hint v).1, boundValue b.dialect v)] := by
  have hfresh : Params.normalize (b.freshName hint) ∉ b.params.names := by
    rw [normalize_freshName]
    exact b.freshName_not_mem_names hint
  rw [bind_snd_params hmode, bind_fst hmode, Params.toList_insert_of_not_mem hfresh,
    normalize_freshName]

/-- Without parameters of its own, a fragment binds its values in the order in which it places
them. -/
lemma toList_write (hmode : b.inline = false) (h : f.error? = none)
    (hsupplies : ∀ m ∈ f.supplies, m = ∅) :
    (b.write f).2.params.toList =
      b.params.toList ++ (b.placed f).map fun (n, v) => (n, boundValue b.dialect v) := by
  induction f generalizing b with
  | nil => simp [write, placed]
  | cons piece rest ih =>
    cases piece with
    | text s => exact ih hmode h hsupplies
    | slot hint v =>
      rw [write, ih (by simpa using hmode) h hsupplies, toList_bind hmode, placed, List.map_cons,
        List.append_assoc, bind_snd_dialect]
      rfl
    | supply params =>
      have hparams : params = ∅ := hsupplies params List.mem_cons_self
      subst hparams
      exact ih (b := b.merge ∅) hmode h fun m hm => hsupplies m (List.mem_cons_of_mem _ hm)
    | refusal e => simp at h

end Binding

lemma Fragment.count_none_marks (f : Fragment) : f.marks.count none = f.values.length := by
  induction f with
  | nil => rfl
  | cons piece rest ih =>
    cases piece with
    | text s =>
      have hchars : (charMarks s.toList).count none = 0 := by
        rw [List.count_eq_zero]
        simp [charMarks]
      rw [marks_text_cons, List.count_append, hchars, ih, Nat.zero_add]
      rfl
    | slot hint v =>
      rw [marks_slot_cons, List.count_cons_self, ih]
      rfl
    | supply params => exact ih
    | refusal e => exact ih

namespace Builder

variable {b : Builder} {s : Draft} {out : Built}

/-- What a draft binds that brings no parameters of its own with it. -/
lemma toList_allParams_of_forall (hmode : b.inlineValues = false) (h : b.write s = .ok out)
    (hmaps : ∀ m ∈ s.maps, m = ∅) :
    out.allParams.toList = (b.placed s).map fun (n, v) => (n, Binding.boundValue b.dialect v) := by
  have herror := error?_eq_none_of_write h
  rw [allParams_of_write h, Binding.toList_write (b := b.startFor s) hmode herror
    (by rwa [s.supplies_fragment herror])]
  rfl

/-- What a draft without parameters of its own binds. -/
lemma toList_allParams (hmode : b.inlineValues = false) (h : b.write s = .ok out)
    (hmaps : s.maps = []) :
    out.allParams.toList = (b.placed s).map fun (n, v) => (n, Binding.boundValue b.dialect v) :=
  toList_allParams_of_forall hmode h (by simp [hmaps])

/-- The placeholders in the text are the names of the parameters, in order and each once. -/
theorem placeholders_in_text_order (hmode : b.inlineValues = false) (h : b.write s = .ok out)
    (htexts : ∀ t ∈ s.texts, ':' ∉ t.toList) (hmaps : ∀ m ∈ s.maps, m = ∅) :
    placeholdersOf out.sql.toList = out.allParams.names ∧ out.allParams.names.Nodup := by
  have herror := error?_eq_none_of_write h
  have hwoven : IsWoven b.dialect s.texts (s.fragment b.dialect b.schema) :=
    s.isWoven (List.Subset.refl _)
  have htidy := hwoven.isTidy htexts
  have hnames : out.allParams.names = (b.placed s).map Prod.fst := by
    rw [allParams_of_write h, Binding.names_write (b := b.startFor s) hmode herror
      (by rwa [s.supplies_fragment herror])]
    rfl
  have hplaceholders : ∀ n ∈ (b.placed s).map Prod.fst, IsPlaceholder n := fun n hn =>
    Binding.isPlaceholder_of_mem_placedNames (b := b.startFor s) hmode hn
  have hlength : ((b.placed s).map Prod.fst).length =
      (s.fragment b.dialect b.schema).marks.count none := by
    rw [count_none_marks, ← Binding.map_snd_placed (b := b.startFor s) herror, List.length_map,
      List.length_map]
    rfl
  refine ⟨?_, Params.nodup_names _⟩
  rw [sql_of_write h, toList_fill herror, hnames]
  exact htidy.placeholdersOf_fillMarks hplaceholders hlength

/-- Rows are deleted by a part of a date and by a query with a list of values. -/
def castAndSubquery : Statement :=
  let inner : Query := { Query.empty with
    tables := [⟨.table "u", none⟩], filter := some (.inList "c" [.int 2, .int 3]) }
  .delete "t" (some (.and [.inQuery "b" inner, .lookup "a" (.part .year) (.value (.int 1))]))

lemma build_castAndSubquery : (⟨.pgsql, none, false⟩ : Builder).build castAndSubquery =
    .ok ⟨"DELETE FROM \"t\" WHERE \"b\" IN (SELECT * FROM \"u\" WHERE \"c\" IN (:c1, :c2)) AND " ++
        "EXTRACT(YEAR FROM \"a\"::timestamp) = :a3",
      some (.ofList [("c1", .int 2), ("c2", .int 3), ("a3", .int 1)])⟩ := by
  decide +kernel

theorem placeholders_in_text_order_castAndSubquery :
    ∃ out, (⟨.pgsql, none, false⟩ : Builder).write (.statement castAndSubquery) = .ok out ∧
      (∀ t ∈ castAndSubquery.texts, ':' ∉ t.toList) ∧ (∀ m ∈ castAndSubquery.maps, m = ∅) ∧
      placeholdersOf out.sql.toList = [":c1", ":c2", ":a3"] := by
  have htexts : ∀ t ∈ castAndSubquery.texts, ':' ∉ t.toList := by decide
  have hmaps : ∀ m ∈ castAndSubquery.maps, m = ∅ := by decide
  have horder := placeholders_in_text_order (s := .statement castAndSubquery) rfl
    build_castAndSubquery htexts hmaps
  exact ⟨_, build_castAndSubquery, htexts, hmaps, horder.1⟩

end Builder

end SqlCompose
