import Mathlib
import SqlCompose.Proofs.Compound.Union
import SqlCompose.Proofs.Draft
import SqlCompose.Proofs.Reading.Name

/-!
# Queries that keep their structure

A query is flat if the further members of its union are SELECTs and no member of it is ordered or
limited, or if it has no further members. Every query is read with its own structure where the
members of unions stand in parentheses; where they do not, exactly the flat queries are.
-/

namespace SqlCompose

open Fragment

variable {d : Dialect} {q : Query} {b : Binding} {unions : List UnionMember} {c : Compound}

/-- A query without further members, or a union of SELECTs that are not ordered and not limited. -/
def Query.IsFlat (d : Dialect) (q : Query) : Prop :=
  q.unions = [] ∨ q.isOrdered d = false ∧
    ∀ u ∈ q.unions, u.query.unions = [] ∧ u.query.isOrdered d = false

/-! ### Flat queries -/

namespace Query

/-- Without an ordering and limits, the first member of a query is a SELECT. -/
lemma exists_items_select (hq : q.IsReadable d) (herror : error? (q.simple d) = none)
    (hordered : q.isOrdered d = false) (hb : b.dialect = d) :
    ∃ is, d.items? (b.textOf (q.simple d)) = some is ∧
      d.items? (b.textOf (trimEnd (q.simple d))) = some is ∧
      Compound.IsMember is (q.first b) := by
  subst hb
  obtain ⟨cs, es, hspelled, hitems, htrim⟩ := exists_isSpelled hq herror rfl
  obtain rfl := hspelled.ordered.mpr hordered
  rw [List.append_nil] at hitems htrim
  refine ⟨cs, hitems, htrim, ?_⟩
  rw [hspelled.first]
  exact Compound.isMember_select hspelled.isQuery hspelled.noUnion hspelled.noEnding

/-- A flat query is read with its structure, without any parentheses. -/
lemma readsCompound_of_isFlat (hd : d.parenthesizesUnion = false) (hflat : q.IsFlat d)
    (hq : ∀ m ∈ q.members, m.IsReadable d) (herror : error? (q.fragment d) = none)
    (hb : b.dialect = d) : b.ReadsCompound (q.fragment d) (q.compound b) := by
  rw [members_eq, List.forall_mem_cons] at hq
  obtain ⟨hsimple, hfurther⟩ := error?_simple herror
  by_cases hunions : q.unions = []
  · exact readsCompound_of_unions_eq_nil hunions hq.1 herror hb
  obtain ⟨hordered, hmembers⟩ := hflat.resolve_left hunions
  obtain ⟨first, hfirst, -, hmember⟩ :=
    exists_items_select hq.1 hsimple hordered (b := b.merge q.params) hb
  refine readsCompound_of_unions_ne_nil hunions herror hb ?_ hmember fun u hu b' hb' => ?_
  · rw [hd]
    exact hfirst
  · obtain ⟨hnil, hunordered⟩ := hmembers u hu
    have herror' := forall_unionFragments.mp hfurther u hu
    obtain ⟨is, -, htrim, hread⟩ := exists_items_select (hq.2 _ (Query.mem_membersOfUnions hu))
      (error?_simple herror').1 hunordered (b := b'.merge u.query.params) hb'
    refine ⟨is, ?_, ?_⟩
    · rw [member, hd, if_neg (by decide), fragment_of_unions_eq_nil hnil,
        Binding.textOf_supply_cons]
      exact htrim
    · rw [compound_eq, hnil]
      exact hread

end Query

/-! ### Structures without parentheses -/

lemma exists_compoundWith_cons_eq_union (b : Binding) (c : Compound) (u : UnionMember)
    (unions : List UnionMember) :
    ∃ all left right, compoundWith b c (u :: unions) = .union all left right := by
  induction unions generalizing b c u with
  | nil =>
    obtain ⟨q, all⟩ := u
    exact ⟨all, c, q.compound b, rfl⟩
  | cons v unions ih =>
    obtain ⟨q, all⟩ := u
    exact ih (b.after (q.fragment b.dialect)) (.union all c (q.compound b)) v

/-- In a chain, the first member and every further one are SELECTs. -/
lemma isChain_compoundWith (hb : b.dialect = d) (h : (compoundWith b c unions).IsChain) :
    c.IsChain ∧ ∀ u ∈ unions, ∃ b' : Binding, b'.dialect = d ∧
      ∃ ts, u.query.compound b' = .select ts := by
  induction unions generalizing b c with
  | nil => exact ⟨h, by simp⟩
  | cons u unions ih =>
    obtain ⟨q, all⟩ := u
    obtain ⟨hunion, hrest⟩ := ih (Binding.after_dialect.trans hb) h
    rw [List.forall_mem_cons]
    cases hq : q.compound b with
    | select ts =>
      rw [hq] at hunion
      exact ⟨hunion, ⟨b, hb, ts, hq⟩, hrest⟩
    | union | ordered =>
      rw [hq] at hunion
      exact hunion.elim

namespace Query

/-- In a union that associates to the left, the first member has no ordering of its own. -/
lemma isOrdered_of_isChain_first (hq : q.IsReadable d) (herror : error? (q.simple d) = none)
    (hb : b.dialect = d) (h : (q.first b).IsChain) : q.isOrdered d = false := by
  subst hb
  obtain ⟨cs, es, hspelled, -⟩ := exists_isSpelled hq herror rfl
  rw [hspelled.first, Compound.withEnding] at h
  split at h
  · rename_i hempty
    exact hspelled.ordered.mp (Compound.eq_nil_of_flatMap_tokens (List.isEmpty_iff.mp hempty))
  · exact h.elim

/-- Only a query without further members, ordering and limits is a SELECT. -/
lemma of_compound_eq_select {ts : List Token} (hq : q.IsReadable d)
    (herror : error? (q.fragment d) = none) (hb : b.dialect = d)
    (h : q.compound b = .select ts) : q.unions = [] ∧ q.isOrdered d = false := by
  rw [compound_eq] at h
  cases hunions : q.unions with
  | nil =>
    rw [hunions] at h
    have hfirst : q.first (b.merge q.params) = .select ts := h
    refine ⟨rfl, isOrdered_of_isChain_first hq (error?_simple herror).1
      (b := b.merge q.params) hb ?_⟩
    rw [hfirst]
    trivial
  | cons u unions =>
    rw [hunions] at h
    obtain ⟨all, left, right, hunion⟩ := exists_compoundWith_cons_eq_union
      ((b.merge q.params).after (q.simple b.dialect)) (q.first (b.merge q.params)) u unions
    rw [hunion] at h
    simp at h

/-- Without parentheses, only a flat query is read with its structure. -/
lemma isFlat_of_compound? (hd : d.parenthesizesUnion = false)
    (hq : ∀ m ∈ q.members, m.IsReadable d) (herror : error? (q.fragment d) = none)
    (hb : b.dialect = d) (h : d.compound? (b.textOf (q.fragment d)) = some (q.compound b)) :
    q.IsFlat d := by
  obtain ⟨first, ps, hitems, hselects⟩ := q.exists_items_selects hd hq herror b hb
  rw [members_eq, List.forall_mem_cons] at hq
  obtain ⟨hsimple, hfurther⟩ := error?_simple herror
  by_cases hunions : q.unions = []
  · exact .inl hunions
  right
  obtain ⟨u, unions, hcons⟩ := List.exists_cons_of_ne_nil hunions
  obtain ⟨all, left, right, hunion⟩ := exists_compoundWith_cons_eq_union
    ((b.merge q.params).after (q.simple b.dialect)) (q.first (b.merge q.params)) u unions
  rw [← hcons, ← compound_eq] at hunion
  have hchain : (q.compound b).IsChain := by
    rw [List.forall_mem_cons, List.forall_mem_map] at hselects
    obtain ⟨⟨hfirst, hfirstUnion⟩, hps⟩ := hselects
    obtain ⟨ts, hts, htsItems⟩ := Dialect.items?_eq_some.mp hitems
    rw [Dialect.compound?, hts, Option.bind_some, Compound.ofTokens?, htsItems, Option.bind_some,
      hunion] at h
    rw [hunion]
    exact Compound.isChain_of_ofItems? hfirst (fun p hp => (hps p hp).1) hfirstUnion
      (fun p hp => (hps p hp).2) h
  rw [compound_eq] at hchain
  obtain ⟨hfirst, hmembers⟩ := isChain_compoundWith
    (b := (b.merge q.params).after (q.simple b.dialect)) (Binding.after_dialect.trans hb) hchain
  refine ⟨isOrdered_of_isChain_first hq.1 hsimple (b := b.merge q.params) hb hfirst,
    fun u hu => ?_⟩
  obtain ⟨b', hb', ts, hselect⟩ := hmembers u hu
  exact of_compound_eq_select (hq.2 _ (Query.mem_membersOfUnions hu))
    (forall_unionFragments.mp hfurther u hu) hb' hselect

end Query

/-! ### Rows of tables -/

/-- A step that ends a quoted text reads its closing quote. -/
lemma Scanner.eq_closing_of_step {s : Scanner} {quote : Quote} {c : Char} {ts : List Token}
    {cs : List Char} (h : step d s c = ⟨ts, .closed quote cs⟩) : c = quote.closing := by
  have hstart (us : List Token) : start d us c ≠ ⟨ts, .closed quote cs⟩ := by
    unfold start
    split
    · simp
    · split
      · simp
      · split <;> simp
  obtain ⟨us, mode⟩ := s
  cases mode with
  | outside => exact absurd h (hstart us)
  | word cs =>
    simp only [step] at h
    split at h
    · simp at h
    · exact absurd h (hstart _)
  | quoted q cs =>
    simp only [step] at h
    split at h
    · rename_i hc
      simp only [mk.injEq, ScanMode.closed.injEq] at h
      rw [hc, h.2.1]
    · split at h <;> simp at h
  | escaped q cs => simp [step] at h
  | closed q cs =>
    simp only [step] at h
    split at h
    · simp at h
    · exact absurd h (hstart _)

/-- A text that ends with a quote does not end with a blank. -/
lemma trimEnd_of_scan_closed {s : String} {quote : Quote} {ts : List Token} {cs : List Char}
    (h : Scanner.scan d ⟨[], .outside⟩ s.toList = ⟨ts, .closed quote cs⟩) :
    trimEnd [.text s] = [.text s] ∧ [Piece.text s].any Piece.stops = true := by
  obtain ⟨before, c, hchars⟩ : ∃ before c, s.toList = before ++ [c] := by
    rcases List.eq_nil_or_concat' s.toList with hnil | hconcat
    · rw [hnil] at h
      simp [Scanner.scan] at h
    · exact hconcat
  have hclosing : c = quote.closing := by
    rw [hchars, Scanner.scan_append] at h
    exact Scanner.eq_closing_of_step h
  have hblank : SqlCompose.isBlank c = false := by
    subst hclosing
    cases quote <;> decide
  have hend : EndsVisibly s.toList := ⟨c, by rw [hchars, List.getLast?_concat], hblank⟩
  refine ⟨trimEnd_concat_of_endsVisibly hend [], ?_⟩
  rw [List.any_cons, stops_of_endsVisibly hend, Bool.true_or]

/-- All rows of a table, and of further members. -/
def Query.rowsOf (table : String) (unions : List UnionMember) : Query :=
  { Query.empty with tables := [⟨.table table, none⟩], unions }

/-- The rows of a table with a plain name are readable, whatever the further members are. -/
lemma Query.isReadable_rowsOf {table : String} (h : IsPlainName table) (d : Dialect)
    (unions : List UnionMember) : (Query.rowsOf table unions).IsReadable d := by
  obtain ⟨ts, cs, hscan, hts⟩ := scan_quoteTable d h
  have hparts : ∀ t ∈ ts ++ [.quoted (.ofName d) cs], t.isNamePart = true :=
    Scanner.isNamePart_append_quoted hts
  have hquoted : tokens? d (d.quoteTable table) = some (ts ++ [.quoted (.ofName d) cs]) := by
    rw [tokens?, hscan]
    rfl
  have hselect : d.items? "SELECT * FROM " = some [.token (.word "SELECT".toList),
      .token (.symbol '*'), .token (.word "FROM".toList)] := by
    cases d <;> rfl
  have hitems := Dialect.items?_append hselect (items?_of_isNamePart hparts hquoted)
    (.inl (by decide))
  obtain ⟨htrim, hstops⟩ := trimEnd_of_scan_closed hscan
  have hcore : (Query.rowsOf table unions).core d =
      [.text "SELECT", .text " *", .text " ", .text "FROM "] ++ [.text (d.quoteTable table)] := rfl
  have htext (b : Binding) : b.textOf ((Query.rowsOf table unions).core d) =
      "SELECT * FROM " ++ d.quoteTable table := by
    rw [hcore]
    simp [← String.append_assoc]
  have hending : (Query.rowsOf table unions).ending d = [.text ""] :=
    Query.ending_of_isOrdered_eq_false (by cases d <;> rfl)
  constructor
  · intro b _
    rw [hcore, trimEnd_append hstops, htrim, ← hcore, htext]
    refine ⟨_, hitems, hitems, fun keyword hkeyword => ?_⟩
    rw [List.forall_mem_append, List.forall_mem_map]
    simp only [List.mem_cons, List.not_mem_nil, or_false] at hkeyword
    rcases hkeyword with rfl | rfl | rfl | rfl <;>
      exact ⟨by decide, fun t ht => Token.isKeyword_of_isNamePart (hparts t ht) (by decide)⟩
  · intro b _
    rw [hending]
    exact ⟨[], rfl, rfl, by simp⟩

/-! ### Written queries -/

namespace Builder

/-- A query is read with the structure that it has, and with the ordering and the limits of each
member, where the members of unions stand in parentheses; where they do not, exactly if it is
flat. -/
theorem union_read_iff_flat {b : Builder} {out : Built}
    (hq : ∀ m ∈ q.members, m.IsReadable b.dialect) (h : b.build (.select q) = .ok out) :
    b.dialect.compound? out.sql =
        some (q.compound (b.startFor (.statement (.select q)))) ↔
      b.dialect.parenthesizesUnion = true ∨ q.IsFlat b.dialect := by
  have hwrite : b.write (.statement (.select q)) = .ok out := h
  have herror : error? (q.fragment b.dialect) = none := error?_eq_none_of_write hwrite
  have hsql : out.sql = (b.startFor (.statement (.select q))).textOf (q.fragment b.dialect) :=
    sql_of_write hwrite
  rw [hsql]
  cases hd : b.dialect.parenthesizesUnion with
  | true =>
    have hreads := q.readsCompound hd hq herror (b.startFor (.statement (.select q)))
      startFor_dialect
    exact iff_of_true hreads.compound? (.inl rfl)
  | false =>
    rw [or_iff_right (by decide)]
    constructor
    · exact Query.isFlat_of_compound? hd hq herror startFor_dialect
    · intro hflat
      exact (Query.readsCompound_of_isFlat hd hflat hq herror startFor_dialect).compound?

/-- The rows of a table without duplicates, with those of a union that keeps its duplicates. -/
def nestedUnion : Query := .rowsOf "a" [⟨.rowsOf "b" [⟨.rowsOf "c" [], true⟩], false⟩]

lemma isReadable_nestedUnion (d : Dialect) : ∀ m ∈ nestedUnion.members, m.IsReadable d := by
  have hplain (table : String) (h : table.toList ⊆ ['a', 'b', 'c']) : IsPlainName table := by
    intro c hc
    have hletter := h hc
    simp only [List.mem_cons, List.not_mem_nil, or_false] at hletter
    rcases hletter with rfl | rfl | rfl <;> decide
  have hmembers : nestedUnion.members =
      [nestedUnion, .rowsOf "b" [⟨.rowsOf "c" [], true⟩], .rowsOf "c" []] := rfl
  rw [hmembers, List.forall_mem_cons, List.forall_mem_cons, List.forall_mem_singleton]
  exact ⟨Query.isReadable_rowsOf (hplain "a" (by decide)) d _,
    Query.isReadable_rowsOf (hplain "b" (by decide)) d _,
    Query.isReadable_rowsOf (hplain "c" (by decide)) d _⟩

theorem union_read_iff_flat_nestedUnion :
    ∃ out₁ out₂, (Builder.mk .mysql none false).build (.select nestedUnion) = .ok out₁ ∧
      out₁.sql = "(SELECT * FROM \x60a\x60) UNION " ++
        "((SELECT * FROM \x60b\x60) UNION ALL (SELECT * FROM \x60c\x60))" ∧
      Dialect.mysql.compound? out₁.sql = some (nestedUnion.compound
        ((Builder.mk .mysql none false).startFor (.statement (.select nestedUnion)))) ∧
      (Builder.mk .sqlite none false).build (.select nestedUnion) = .ok out₂ ∧
      out₂.sql = "SELECT * FROM \x60a\x60 UNION SELECT * FROM \x60b\x60 UNION ALL " ++
        "SELECT * FROM \x60c\x60" ∧
      Dialect.sqlite.compound? out₂.sql ≠ some (nestedUnion.compound
        ((Builder.mk .sqlite none false).startFor (.statement (.select nestedUnion)))) := by
  obtain ⟨out₁, hout₁, hsql₁⟩ : ∃ out,
      (Builder.mk .mysql none false).build (.select nestedUnion) = .ok out ∧
        out.sql = "(SELECT * FROM \x60a\x60) UNION " ++
          "((SELECT * FROM \x60b\x60) UNION ALL (SELECT * FROM \x60c\x60))" := ⟨_, rfl, rfl⟩
  obtain ⟨out₂, hout₂, hsql₂⟩ : ∃ out,
      (Builder.mk .sqlite none false).build (.select nestedUnion) = .ok out ∧
        out.sql = "SELECT * FROM \x60a\x60 UNION SELECT * FROM \x60b\x60 UNION ALL " ++
          "SELECT * FROM \x60c\x60" := ⟨_, rfl, rfl⟩
  refine ⟨out₁, out₂, hout₁, hsql₁, ?_, hout₂, hsql₂, fun hread => ?_⟩
  · exact (union_read_iff_flat (isReadable_nestedUnion .mysql) hout₁).mpr (.inl rfl)
  · have hkept := (union_read_iff_flat (isReadable_nestedUnion .sqlite) hout₂).mp hread
    obtain ⟨-, hmembers⟩ := (hkept.resolve_left (by decide)).resolve_left (List.cons_ne_nil _ _)
    exact absurd (hmembers _ List.mem_cons_self).1 (List.cons_ne_nil _ _)

end Builder

end SqlCompose
