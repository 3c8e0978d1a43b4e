import Mathlib
import SqlCompose.Proofs.Compound.Basic
import SqlCompose.Proofs.Fragment.Query
import SqlCompose.Proofs.Fragment.Trim
import SqlCompose.Proofs.Reading.Fragment

/-!
# The members of a query

A query is its first member and the further members of its union, each of which is a query itself.
Every member is a SELECT with an ordering and limits of its own.
-/

namespace SqlCompose

open Fragment

/-! ### The structure of a query -/

/-- The clauses of a SELECT without its ordering and limits. -/
def Query.core (d : Dialect) (q : Query) : Fragment := joinNonBlank " " ((q.clauses d).take 6)

/-- The ordering and the limits of a SELECT, with a blank before each of them. -/
def Query.ending (d : Dialect) (q : Query) : Fragment := joinFrom " " true ((q.clauses d).drop 6)

/-- Whether a SELECT has an ordering or limits. -/
def Query.isOrdered (d : Dialect) (q : Query) : Bool :=
  !q.orderBy.isEmpty || !(d.limitClause q.limit q.offset).isEmpty

def Fragment.further (d : Dialect) (unions : List UnionMember) : Fragment :=
  (unionFragments d unions).flatMap (.text " " :: ·)

def Binding.tokensOf (b : Binding) (f : Fragment) : List Token :=
  (tokens? b.dialect (b.textOf f)).getD []

/-- The structure of the first member of a query. -/
def Query.first (b : Binding) (q : Query) : Compound :=
  (Compound.select (b.tokensOf (q.core b.dialect))).withEnding
    ((b.after (q.core b.dialect)).tokensOf (q.ending b.dialect))

mutual
/-- The structure of a query: its members from left to right, each with its own structure. -/
def Query.compound (b : Binding) : Query → Compound
  | q@⟨_, _, _, _, _, _, _, _, _, unions, _, _, _, params⟩ =>
    compoundWith ((b.merge params).after (q.simple b.dialect)) (q.first (b.merge params)) unions

/-- A structure with the further members of a union. -/
def compoundWith (b : Binding) (c : Compound) : List UnionMember → Compound
  | [] => c
  | ⟨q, all⟩ :: unions =>
    compoundWith (b.after (q.fragment b.dialect)) (.union all c (q.compound b)) unions
end

mutual
/-- A query and the members of its union, at any depth. -/
def Query.members : Query → List Query
  | q@⟨_, _, _, _, _, _, _, _, _, unions, _, _, _, _⟩ => q :: membersOfUnions unions

def membersOfUnions : List UnionMember → List Query
  | [] => []
  | ⟨q, _⟩ :: unions => q.members ++ membersOfUnions unions
end

/-! ### Readable members -/

/-- Whatever is bound before, the text of a fragment closes what it opens and has none of these
keywords outside parentheses, and blanks at its end make no difference. -/
def Fragment.IsFreeOf (d : Dialect) (keywords : List String) (f : Fragment) : Prop :=
  ∀ b : Binding, b.dialect = d → ∃ is, d.items? (b.textOf f) = some is ∧
    d.items? (b.textOf (trimEnd f)) = some is ∧
    ∀ keyword ∈ keywords, ∀ i ∈ is, i.isKeyword keyword = false

/-- No clause of a SELECT has a keyword outside parentheses that belongs to what follows it. -/
structure Query.IsReadable (d : Dialect) (q : Query) : Prop where
  core : (q.core d).IsFreeOf d ["UNION", "ORDER", "LIMIT", "OFFSET"]
  ending : (q.ending d).IsFreeOf d ["UNION"]

namespace Query

variable {d : Dialect} {q : Query} {b : Binding}

/-- The structure of a query starts with its first member and goes on with the others. -/
lemma compound_eq (b : Binding) (q : Query) :
    q.compound b = compoundWith ((b.merge q.params).after (q.simple b.dialect))
      (q.first (b.merge q.params)) q.unions := by
  obtain ⟨⟩ := q
  rfl

lemma members_eq (q : Query) : q.members = q :: membersOfUnions q.unions := by
  obtain ⟨⟩ := q
  rfl

lemma mem_membersOfUnions {u : UnionMember} {unions : List UnionMember} (h : u ∈ unions) :
    u.query ∈ membersOfUnions unions := by
  induction unions with
  | nil => simp at h
  | cons v unions ih =>
    obtain ⟨q, all⟩ := v
    rw [membersOfUnions, List.mem_append]
    rcases List.mem_cons.mp h with rfl | h
    · left
      rw [members_eq]
      exact List.mem_cons_self
    · exact .inr (ih h)

lemma simple_eq_append (d : Dialect) (q : Query) : q.simple d = q.core d ++ q.ending d :=
  q.simple_append d (by decide)

lemma ending_of_isOrdered_eq_false (h : q.isOrdered d = false) : q.ending d = [.text ""] := by
  rw [isOrdered, Bool.or_eq_false_iff, Bool.not_eq_false', Bool.not_eq_false', List.isEmpty_iff,
    String.isEmpty_iff] at h
  have hending : q.ending d = joinFrom " " true
      [Fragment.orderBy d q.orderBy, [.text (d.limitClause q.limit q.offset)]] := rfl
  rw [hending, h.1, h.2]
  rfl

end Query

/-! ### The texts of the clauses -/

section Clauses

variable {d : Dialect} {q : Query} {b : Binding} {s t : String} {w : List Char} {ts : List Token}
  {is : List Item}

/-- The keywords that an ordering or a limit starts with. -/
def endingKeywords : List String := ["ORDER BY ", "LIMIT ", "OFFSET "]

/-- A text that starts with one of these keywords. -/
def StartsEnding (s : String) : Prop := ∃ keyword ∈ endingKeywords, ∃ t, s = keyword ++ t

lemma startsEnding_of_mem {keyword : String} (h : keyword ∈ endingKeywords) (t : String) :
    StartsEnding (keyword ++ t) := ⟨keyword, h, t, rfl⟩

lemma StartsEnding.append (h : StartsEnding s) (t : String) : StartsEnding (s ++ t) := by
  obtain ⟨keyword, hkeyword, u, rfl⟩ := h
  exact ⟨keyword, hkeyword, u ++ t, String.append_assoc ..⟩

lemma StartsEnding.isBlank (h : StartsEnding s) : Text.isBlank s = false := by
  obtain ⟨keyword, hkeyword, t, rfl⟩ := h
  have hletter : Text.isBlank keyword = false := by
    simp only [endingKeywords, List.mem_cons, List.not_mem_nil, or_false] at hkeyword
    rcases hkeyword with rfl | rfl | rfl <;> decide
  rw [Text.isBlank] at hletter ⊢
  rw [String.toList_append, List.all_append, hletter]
  rfl

/-- A limit starts with a keyword of an ending. -/
lemma startsEnding_limitClause {limit offset : Option ℕ}
    (h : (d.limitClause limit offset).isEmpty = false) :
    StartsEnding (d.limitClause limit offset) := by
  have hlimit (s : String) : StartsEnding ("LIMIT " ++ s) := startsEnding_of_mem (by decide) s
  have hoffset (s : String) : StartsEnding ("OFFSET " ++ s) := startsEnding_of_mem (by decide) s
  unfold Dialect.limitClause at h ⊢
  dsimp only at h ⊢
  generalize offset.filter (0 < ·) = offset at h ⊢
  cases limit with
  | some n =>
    cases offset with
    | some k =>
      cases d with
      | mssql => exact (((hoffset _).append _).append _).append _
      | _ => exact ((hlimit _).append _).append _
    | none =>
      cases d with
      | mssql => exact (((hoffset _).append _).append _).append _
      | _ => exact hlimit _
  | none =>
    cases offset with
    | some k =>
      cases d with
      | mssql => exact (hoffset _).append _
      | pgsql => exact hoffset _
      | _ => exact ((hlimit _).append _).append _
    | none => cases d <;> exact absurd h (by decide)

/-- The keywords of an ending are words of their own after a blank. -/
lemma exists_tokens_endingKeyword {keyword : String} (h : keyword ∈ endingKeywords)
    (d : Dialect) : ∃ w ts, tokens? d (" " ++ keyword) = some (.word w :: ts) ∧
      (Item.token (.word w)).isEnding = true ∧ endsApart (" " ++ keyword) = true := by
  simp only [endingKeywords, List.mem_cons, List.not_mem_nil, or_false] at h
  rcases h with rfl | rfl | rfl <;> cases d <;> exact ⟨_, _, rfl, by decide, by decide⟩

/-- What starts with a word has it as its first item. -/
lemma exists_items_of_word (hs : tokens? d s = some (.word w :: ts))
    (hapart : endsApart s = true ∨ startsApart t = true) (h : d.items? (s ++ t) = some is) :
    ∃ js, is = .token (.word w) :: js := by
  obtain ⟨us, hus, his⟩ := Dialect.items?_eq_some.mp h
  have happend : tokens? d (s ++ t) = (tokens? d t).map ((.word w :: ts) ++ ·) :=
    hapart.elim (tokens?_append_of_endsApart hs) (tokens?_append_of_startsApart hs)
  rw [happend] at hus
  obtain ⟨rest, -, rfl⟩ := Option.map_eq_some_iff.mp hus
  have htokens := flatMap_tokens_of_items? his
  cases is with
  | nil => simp at htokens
  | cons i js =>
    cases i with
    | token t =>
      obtain ⟨rfl, -⟩ := List.cons.inj htokens
      exact ⟨js, rfl⟩
    | group inner inside => simp [Item.tokens] at htokens

lemma startsApart_blank (t : String) : startsApart (" " ++ t) = true :=
  startsApart_append (by decide) (by decide)

lemma Binding.flatMap_tokens_eq {f : Fragment} (h : b.dialect.items? (b.textOf f) = some is) :
    is.flatMap Item.tokens = b.tokensOf f := by
  obtain ⟨ts, hts, his⟩ := Dialect.items?_eq_some.mp h
  rw [flatMap_tokens_of_items? his, Binding.tokensOf, hts]
  rfl

namespace Query

/-- After the keyword SELECT, there is a blank. -/
lemma exists_core (herror : error? (q.core d) = none) :
    ∃ f, q.core d = .text "SELECT" :: f ∧ ∀ b : Binding, startsApart (b.textOf f) = true := by
  let rest := joinFrom " " true (((q.clauses d).take 6).drop 1)
  have hcore : q.core d = .text "SELECT" :: (Fragment.distinct d q.distinct ++
      (selectModifier q.selectOption ++ (selectList d q.select ++ rest))) := by
    have hfirst : q.core d = .text "SELECT" :: (Fragment.distinct d q.distinct ++
      selectModifier q.selectOption ++ selectList d q.select) ++ rest := rfl
    rw [hfirst, List.cons_append, List.append_assoc, List.append_assoc]
  refine ⟨_, hcore, fun b => ?_⟩
  have hlist : startsApart (b.textOf (selectList d q.select ++ rest)) = true := by
    rw [selectList]
    split
    · exact startsApart_append (by decide) (by decide)
    · exact startsApart_blank _
  have hmodifier : startsApart (b.textOf (selectModifier q.selectOption ++
      (selectList d q.select ++ rest))) = true := by
    unfold selectModifier
    split
    · split
      · exact hlist
      · rw [List.singleton_append, Binding.textOf_text_cons, String.append_assoc]
        exact startsApart_blank _
    · exact hlist
  rw [hcore, error?_text_cons, error?_append, Option.or_eq_none_iff] at herror
  unfold Fragment.distinct at herror ⊢
  split
  · exact hmodifier
  · exact startsApart_append (by decide) (by decide)
  · split
    · rw [List.singleton_append, Binding.textOf_text_cons, String.append_assoc,
        String.append_assoc]
      exact startsApart_append (by decide) (by decide)
    · rename_i hdialect
      simp_all

/-- The ending of a query that is ordered or limited starts with a keyword of an ending. -/
lemma exists_ending (h : q.isOrdered d = true) :
    ∃ s rest, q.ending d = .text " " :: .text s :: rest ∧ StartsEnding s := by
  have hending : q.ending d = joinFrom " " true
      [Fragment.orderBy d q.orderBy, [.text (d.limitClause q.limit q.offset)]] := rfl
  rw [isOrdered, Bool.or_eq_true, Bool.not_eq_true', Bool.not_eq_true'] at h
  rw [hending, joinFrom, Fragment.orderBy]
  cases horder : q.orderBy.isEmpty with
  | false => exact ⟨_, _, rfl, "ORDER BY ", by decide, "", rfl⟩
  | true =>
    have hlimit := h.resolve_left (by simp [horder])
    have hblank : Fragment.isBlank [.text (d.limitClause q.limit q.offset)] = false := by
      simp [Fragment.isBlank, Piece.isBlank, hlimit]
    rw [if_pos rfl, joinFrom, hblank]
    exact ⟨_, _, rfl, startsEnding_limitClause hlimit⟩

/-- A SELECT is read without the keywords of what follows it. -/
lemma exists_items_core (hq : q.IsReadable d) (herror : error? (q.core d) = none)
    (hb : b.dialect = d) :
    ∃ cs, d.items? (b.textOf (q.core d)) = some cs ∧
      d.items? (b.textOf (trimEnd (q.core d))) = some cs ∧ Formula.isQuery cs = true ∧
      ∀ i ∈ cs, i.isUnion = false ∧ i.isEnding = false := by
  obtain ⟨cs, hcs, htrim, hkeywords⟩ := hq.core b hb
  obtain ⟨f, hf, hstart⟩ := exists_core herror
  have hselect : tokens? d "SELECT" = some [.word "SELECT".toList] := by cases d <;> rfl
  have hitems : d.items? ("SELECT" ++ b.textOf f) = some cs := by
    rwa [hf, Binding.textOf_text_cons] at hcs
  obtain ⟨js, rfl⟩ := exists_items_of_word hselect (.inr (hstart b)) hitems
  refine ⟨_, hcs, htrim, rfl, fun i hi => ⟨hkeywords "UNION" (by simp) i hi, ?_⟩⟩
  rw [Item.isEnding, hkeywords "ORDER" (by simp) i hi, hkeywords "LIMIT" (by simp) i hi,
    hkeywords "OFFSET" (by simp) i hi]
  rfl

/-- An ordering and limits are read as such, and nothing as nothing. -/
lemma exists_items_ending (hq : q.IsReadable d) (hb : b.dialect = d) :
    ∃ es, d.items? (b.textOf (q.ending d)) = some es ∧
      d.items? (b.textOf (trimEnd (q.ending d))) = some es ∧ IsEnding es ∧
      (es = [] ↔ q.isOrdered d = false) := by
  obtain ⟨es, hes, htrim, hkeywords⟩ := hq.ending b hb
  have hunion : ∀ i ∈ es, i.isUnion = false := hkeywords "UNION" (by simp)
  refine ⟨es, hes, htrim, ?_⟩
  cases hordered : q.isOrdered d with
  | false =>
    rw [ending_of_isOrdered_eq_false hordered] at hes
    have hempty : d.items? "" = some [] := rfl
    obtain rfl := Option.some.inj (hempty.symm.trans hes)
    exact ⟨⟨by simp, hunion⟩, by simp⟩
  | true =>
    obtain ⟨s, rest, hending, keyword, hkeyword, t, rfl⟩ := exists_ending hordered
    obtain ⟨w, ts, hts, hw, hapart⟩ := exists_tokens_endingKeyword hkeyword d
    have hitems : d.items? (" " ++ keyword ++ (t ++ b.textOf rest)) = some es := by
      rwa [hending, Binding.textOf_text_cons, Binding.textOf_text_cons, String.append_assoc,
        ← String.append_assoc] at hes
    obtain ⟨js, rfl⟩ := exists_items_of_word hts (.inl hapart) hitems
    exact ⟨⟨by simpa using hw, hunion⟩, by simp⟩

/-- No token of a SELECT can go on into its ordering and limits. -/
lemma startsApart_ending (b : Binding) : startsApart (b.textOf (q.ending d)) = true ∧
    startsApart (b.textOf (trimEnd (q.ending d))) = true := by
  cases hordered : q.isOrdered d with
  | false =>
    rw [ending_of_isOrdered_eq_false hordered]
    exact ⟨rfl, rfl⟩
  | true =>
    obtain ⟨s, rest, hending, hs⟩ := exists_ending hordered
    have hstops : (Piece.text s :: rest).any Piece.stops = true := by
      simp [Piece.stops, hs.isBlank]
    rw [hending, trimEnd_cons hstops]
    exact ⟨startsApart_blank _, startsApart_blank _⟩

/-- Trimming a SELECT trims its last part. -/
lemma trimEnd_simple (d : Dialect) (q : Query) : trimEnd (q.simple d) =
    if q.isOrdered d then q.core d ++ trimEnd (q.ending d) else trimEnd (q.core d) := by
  rw [simple_eq_append]
  split
  · rename_i hordered
    obtain ⟨s, rest, hending, hs⟩ := exists_ending hordered
    refine trimEnd_append ?_
    rw [hending]
    simp [Piece.stops, hs.isBlank]
  · rename_i hordered
    rw [ending_of_isOrdered_eq_false (by simpa using hordered), trimEnd_concat_empty]

/-- The items of a SELECT and of its ordering and limits, which are its structure. -/
structure IsSpelled (b : Binding) (q : Query) (cs es : List Item) : Prop where
  isQuery : Formula.isQuery cs = true
  noUnion : ∀ i ∈ cs, i.isUnion = false
  noEnding : ∀ i ∈ cs, i.isEnding = false
  ending : IsEnding es
  ordered : es = [] ↔ q.isOrdered b.dialect = false
  first : q.first b =
    (Compound.select (cs.flatMap Item.tokens)).withEnding (es.flatMap Item.tokens)

/-- The first member of a query is spelled as it is, with or without blanks at its end. -/
lemma exists_isSpelled (hq : q.IsReadable d) (herror : error? (q.simple d) = none)
    (hb : b.dialect = d) :
    ∃ cs es, q.IsSpelled b cs es ∧ d.items? (b.textOf (q.simple d)) = some (cs ++ es) ∧
      d.items? (b.textOf (trimEnd (q.simple d))) = some (cs ++ es) := by
  subst hb
  rw [simple_eq_append, error?_append, Option.or_eq_none_iff] at herror
  have hdialect : (b.after (q.core b.dialect)).dialect = b.dialect := Binding.after_dialect
  obtain ⟨cs, hcs, hcsTrim, hquery, hkeywords⟩ := exists_items_core hq herror.1 rfl
  obtain ⟨es, hes, hesTrim, hending, hordered⟩ := exists_items_ending hq hdialect
  obtain ⟨hstart, hstartTrim⟩ :=
    startsApart_ending (d := b.dialect) (q := q) (b.after (q.core b.dialect))
  have hfirst : q.first b =
      (Compound.select (cs.flatMap Item.tokens)).withEnding (es.flatMap Item.tokens) := by
    have hesTokens : es.flatMap Item.tokens =
        (b.after (q.core b.dialect)).tokensOf (q.ending b.dialect) :=
      Binding.flatMap_tokens_eq (by rwa [hdialect])
    rw [first, Binding.flatMap_tokens_eq hcs, hesTokens]
  refine ⟨cs, es, ⟨hquery, fun i hi => (hkeywords i hi).1, fun i hi => (hkeywords i hi).2, hending,
    hordered, hfirst⟩, ?_, ?_⟩
  · rw [simple_eq_append, Binding.textOf_append herror.1]
    exact Dialect.items?_append hcs hes (.inr hstart)
  · rw [trimEnd_simple]
    split
    · rw [Binding.textOf_append herror.1]
      exact Dialect.items?_append hcs hesTrim (.inr hstartTrim)
    · rename_i h
      obtain rfl := hordered.mpr (by simpa using h)
      rw [List.append_nil]
      exact hcsTrim

end Query

end Clauses
end SqlCompose
