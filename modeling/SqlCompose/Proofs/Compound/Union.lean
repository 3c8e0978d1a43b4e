import Mathlib
import SqlCompose.Proofs.Compound.Query

/-!
# The structure of unions

Where the members of a union stand in parentheses, a query is read with the structure that it has.
Where they do not, the members of members are taken for members of the whole, and an ordering or a
limit before the last member cannot be read; only a flat query has its own structure then.
-/

namespace SqlCompose

open Fragment

variable {d : Dialect} {q : Query} {b : Binding} {unions : List UnionMember} {c c' : Compound}

/-! ### The further members as a fragment -/

/-- A query as a further member of a union. -/
def Query.member (d : Dialect) (q : Query) : Fragment :=
  if d.parenthesizesUnion then bracket (q.fragment d) else q.fragment d

lemma further_cons (d : Dialect) (q : Query) (all : Bool) (unions : List UnionMember) :
    further d (⟨q, all⟩ :: unions) =
      .text " " :: .text ((if all then "UNION ALL" else "UNION") ++ " ") ::
        (q.member d ++ further d unions) := by
  rw [further, unionFragments, List.flatMap_cons]
  rfl

namespace Query

lemma any_stops_fragment (d : Dialect) (q : Query) : (q.fragment d).any Piece.stops = true := by
  have hcore : (q.core d).any Piece.stops = true := rfl
  rw [fragment_eq, List.any_cons, any_stops_trimEnd, withUnions, simple_eq_append]
  split
  · simp [hcore]
  · split <;> simp [bracket, hcore]

/-- A query is trimmed already where it is written. -/
lemma trimEnd_fragment (d : Dialect) (q : Query) : trimEnd (q.fragment d) = q.fragment d := by
  rw [fragment_eq, trimEnd_supply_cons, trimEnd_trimEnd]

lemma any_stops_member (d : Dialect) (q : Query) : (q.member d).any Piece.stops = true := by
  unfold member
  split
  · rfl
  · exact q.any_stops_fragment d

lemma trimEnd_member (d : Dialect) (q : Query) : trimEnd (q.member d) = q.member d := by
  unfold member
  split
  · exact trimEnd_bracket _
  · exact q.trimEnd_fragment d

@[simp] lemma error?_member : error? (q.member d) = none ↔ error? (q.fragment d) = none := by
  unfold member
  split <;> simp

lemma after_member (h : error? (q.fragment d) = none) :
    b.after (q.member d) = b.after (q.fragment d) := by
  unfold member
  split
  · exact Binding.after_bracket h
  · rfl

end Query

lemma forall_unionFragments :
    (∀ f ∈ unionFragments d unions, error? f = none) ↔
      ∀ u ∈ unions, error? (u.query.fragment d) = none := by
  induction unions with
  | nil => simp [unionFragments]
  | cons u unions ih =>
    obtain ⟨q, all⟩ := u
    have hcons : unionFragments d (⟨q, all⟩ :: unions) =
        after (if all then "UNION ALL" else "UNION") (q.member d) :: unionFragments d unions := rfl
    rw [hcons, List.forall_mem_cons, List.forall_mem_cons, ih, error?_after, Query.error?_member]

/-- The further members of a union do not end with a blank. -/
lemma trimEnd_further (h : unions ≠ []) :
    trimEnd (further d unions) = further d unions ∧
      (further d unions).any Piece.stops = true := by
  induction unions with
  | nil => exact absurd rfl h
  | cons u unions ih =>
    obtain ⟨q, all⟩ := u
    have hstops : (q.member d ++ further d unions).any Piece.stops = true := by
      rw [List.any_append, q.any_stops_member d]
      rfl
    have htrim : trimEnd (q.member d ++ further d unions) = q.member d ++ further d unions := by
      cases unions with
      | nil =>
        have hnil : further d [] = [] := rfl
        rw [hnil, List.append_nil, q.trimEnd_member d]
      | cons u unions =>
        obtain ⟨hrest, hrestStops⟩ := ih (by simp)
        rw [trimEnd_append hrestStops, hrest]
    have hstopsCons : (.text ((if all then "UNION ALL" else "UNION") ++ " ") ::
        (q.member d ++ further d unions)).any Piece.stops = true := by
      rw [List.any_cons, hstops, Bool.or_true]
    rw [further_cons, trimEnd_cons hstopsCons, trimEnd_cons hstops, htrim, List.any_cons,
      hstopsCons, Bool.or_true]
    exact ⟨rfl, rfl⟩

namespace Query

lemma fragment_of_unions_eq_nil (h : q.unions = []) :
    q.fragment d = .supply q.params :: trimEnd (q.simple d) := by
  rw [fragment_eq, withUnions, h]
  rfl

/-- With further members, the first one stands in parentheses in some dialects. -/
lemma fragment_of_unions_ne_nil (h : q.unions ≠ []) :
    q.fragment d = .supply q.params ::
      ((if d.parenthesizesUnion then bracket (q.simple d) else q.simple d) ++
        further d q.unions) := by
  have hne : unionFragments d q.unions ≠ [] := by
    obtain ⟨⟨q', all⟩, unions, hunions⟩ := List.exists_cons_of_ne_nil h
    rw [hunions, unionFragments]
    exact List.cons_ne_nil _ _
  have hempty : q.unions.isEmpty = false := by simpa using h
  obtain ⟨htrim, hstops⟩ := trimEnd_further (d := d) h
  rw [fragment_eq, withUnions, hempty, if_neg (by decide), text_cons_join hne]
  exact congrArg (_ :: ·) (by rw [← further, trimEnd_append hstops, htrim])

end Query

/-! ### The further members as items -/

/-- The further members start with a blank, so no token before them goes on. -/
lemma startsApart_further (b : Binding) (unions : List UnionMember) :
    startsApart (b.textOf (further d unions)) = true := by
  cases unions with
  | nil => rfl
  | cons u unions =>
    obtain ⟨q, all⟩ := u
    rw [further_cons]
    exact startsApart_blank _

/-- A further member stands behind its keywords. -/
lemma items?_further_cons {all : Bool} {is js : List Item}
    (herror : error? (q.fragment d) = none) (his : d.items? (b.textOf (q.member d)) = some is)
    (hjs : d.items? ((b.after (q.fragment d)).textOf (further d unions)) = some js) :
    d.items? (b.textOf (further d (⟨q, all⟩ :: unions))) = some (unionItems all ++ is ++ js) := by
  have hkeyword : d.items? (" " ++ ((if all then "UNION ALL" else "UNION") ++ " ")) =
      some (unionItems all) := by
    cases all <;> cases d <;> rfl
  have hapart : endsApart (" " ++ ((if all then "UNION ALL" else "UNION") ++ " ")) = true := by
    cases all <;> decide
  have hmember := Dialect.items?_append his hjs (.inr (startsApart_further _ unions))
  rw [further_cons, Binding.textOf_text_cons, Binding.textOf_text_cons, ← String.append_assoc,
    Binding.textOf_append (Query.error?_member.mpr herror), Query.after_member herror,
    List.append_assoc]
  exact Dialect.items?_append hkeyword hmember (.inl hapart)

/-- Further members that are read one by one. -/
lemma exists_items_further (herror : ∀ u ∈ unions, error? (u.query.fragment d) = none)
    (hmembers : ∀ u ∈ unions, ∀ b : Binding, b.dialect = d →
      ∃ is, d.items? (b.textOf (u.query.member d)) = some is ∧
        Compound.IsMember is (u.query.compound b)) (hb : b.dialect = d) :
    ∃ ps, d.items? (b.textOf (further d unions)) = some (furtherItems ps) ∧
      (∀ p ∈ ps, IsUnited p.2 ∧ ∀ i ∈ p.2, i.isEnding = false) ∧
      ∀ depth, (ps.flatMap fun p => p.2.flatMap Item.tokens).length ≤ depth → ∀ c,
        Compound.ofUnions? (Compound.ofTokens? depth) c ps = some (compoundWith b c unions) := by
  induction unions generalizing b with
  | nil => exact ⟨[], rfl, by simp, fun _ _ _ => rfl⟩
  | cons u unions ih =>
    obtain ⟨q, all⟩ := u
    rw [List.forall_mem_cons] at herror hmembers
    obtain ⟨is, his, hmember⟩ := hmembers.1 b hb
    obtain ⟨ps, hps, hunited, hread⟩ := ih herror.2 hmembers.2
      (b := b.after (q.fragment d)) (Binding.after_dialect.trans hb)
    refine ⟨(all, is) :: ps, items?_further_cons herror.1 his hps, ?_, fun depth hdepth c => ?_⟩
    · rw [List.forall_mem_cons]
      exact ⟨⟨hmember.united, hmember.noEnding⟩, hunited⟩
    · rw [List.flatMap_cons, List.length_append] at hdepth
      dsimp only at hdepth
      rw [Compound.ofUnions?, hmember.read depth (by omega), Option.bind_some,
        hread depth (by omega), compoundWith, hb]

/-! ### Queries with their own structure -/

/-- The text of a fragment is read as a statement with this structure, however deep its parentheses
are. -/
def Binding.ReadsCompound (b : Binding) (f : Fragment) (c : Compound) : Prop :=
  ∃ is, b.dialect.items? (b.textOf f) = some is ∧
    ∀ depth, (is.flatMap Item.tokens).length < depth →
      Compound.ofTokens? depth (is.flatMap Item.tokens) = some c

/-- A text that is read at every depth is read at its own. -/
lemma Binding.ReadsCompound.compound? {f : Fragment} (h : b.ReadsCompound f c) :
    b.dialect.compound? (b.textOf f) = some c := by
  obtain ⟨is, his, hread⟩ := h
  obtain ⟨ts, hts, htsItems⟩ := Dialect.items?_eq_some.mp his
  have htokens := flatMap_tokens_of_items? htsItems
  rw [Dialect.compound?, hts, Option.bind_some, ← htokens]
  exact hread _ (by omega)

/-- In parentheses, a query is a member with its own structure. -/
lemma Binding.ReadsCompound.isMember {f : Fragment} (h : b.ReadsCompound f c)
    (herror : error? f = none) :
    ∃ is, b.dialect.items? (b.textOf (bracket f)) = some is ∧ Compound.IsMember is c := by
  obtain ⟨is, his, hread⟩ := h
  refine ⟨_, ?_, Compound.isMember_group (Formula.ofGroup? is) hread⟩
  rw [Binding.textOf_bracket herror]
  exact Dialect.items?_parens his

namespace Query

lemma error?_simple (h : error? (q.fragment d) = none) :
    error? (q.simple d) = none ∧ ∀ f ∈ unionFragments d q.unions, error? f = none := by
  rw [fragment_eq, error?_supply_cons, error?_trimEnd, withUnions] at h
  split at h
  · rename_i hunions
    rw [List.isEmpty_iff.mp hunions]
    exact ⟨h, by simp [unionFragments]⟩
  · rw [error?_append, Option.or_eq_none_iff, error?_text_cons, error?_join] at h
    refine ⟨?_, h.2⟩
    split at h
    · exact (error?_bracket _).mp h.1
    · exact h.1

/-- What is spelled as the first member of a query is read as it. -/
lemma IsSpelled.readsCompound {cs es : List Item} (h : q.IsSpelled b cs es) {f : Fragment}
    (hitems : b.dialect.items? (b.textOf f) = some (cs ++ es)) : b.ReadsCompound f (q.first b) := by
  have hwhole : joinUnions cs [] ++ es = cs ++ es := by
    rw [joinUnions, furtherItems, List.flatMap_nil, List.append_nil]
  refine ⟨cs ++ es, hitems, fun depth hdepth => ?_⟩
  have hback := items?_flatMap_tokens hitems
  rw [← hwhole] at hback hdepth ⊢
  rw [h.first]
  exact Compound.ofTokens?_joinUnions hback
    (Compound.isMember_select h.isQuery h.noUnion h.noEnding) (by simp) h.ending
    (fun _ _ => rfl) hdepth

/-- With its ordering and limits, a SELECT is still one. -/
lemma IsSpelled.isSelect {cs es : List Item} (h : q.IsSpelled b cs es) :
    Formula.isQuery (cs ++ es) = true ∧ ∀ i ∈ cs ++ es, i.isUnion = false := by
  refine ⟨?_, List.forall_mem_append.mpr ⟨h.noUnion, h.ending.noUnion⟩⟩
  have hquery := h.isQuery
  cases cs with
  | nil => simp [Formula.isQuery] at hquery
  | cons i cs => exact hquery

/-- A query without further members is read as its first one. -/
lemma readsCompound_of_unions_eq_nil (hunions : q.unions = []) (hq : q.IsReadable d)
    (herror : error? (q.fragment d) = none) (hb : b.dialect = d) :
    b.ReadsCompound (q.fragment d) (q.compound b) := by
  subst hb
  obtain ⟨cs, es, hspelled, -, hitems⟩ :=
    exists_isSpelled hq (error?_simple herror).1 (b := b.merge q.params) rfl
  have hfirst := hspelled.readsCompound hitems
  rw [fragment_of_unions_eq_nil hunions, compound_eq, hunions]
  exact hfirst

/-- A query whose members are read one by one is read as their union. -/
lemma readsCompound_of_unions_ne_nil (hunions : q.unions ≠ [])
    (herror : error? (q.fragment d) = none) (hb : b.dialect = d) {first : List Item}
    (hitems : d.items? ((b.merge q.params).textOf
      (if d.parenthesizesUnion then bracket (q.simple d) else q.simple d)) = some first)
    (hfirst : Compound.IsMember first (q.first (b.merge q.params)))
    (hmembers : ∀ u ∈ q.unions, ∀ b : Binding, b.dialect = d →
      ∃ is, d.items? (b.textOf (u.query.member d)) = some is ∧
        Compound.IsMember is (u.query.compound b)) :
    b.ReadsCompound (q.fragment d) (q.compound b) := by
  subst hb
  obtain ⟨hsimple, hfurther⟩ := error?_simple herror
  have hhead : error? (if b.dialect.parenthesizesUnion then bracket (q.simple b.dialect)
      else q.simple b.dialect) = none := by
    split
    · exact (error?_bracket _).mpr hsimple
    · exact hsimple
  have hafter : (b.merge q.params).after (if b.dialect.parenthesizesUnion then
      bracket (q.simple b.dialect) else q.simple b.dialect) =
        (b.merge q.params).after (q.simple b.dialect) := by
    split
    · exact Binding.after_bracket hsimple
    · rfl
  obtain ⟨ps, hps, hunited, hread⟩ := exists_items_further
    (b := (b.merge q.params).after (q.simple b.dialect)) (forall_unionFragments.mp hfurther)
    hmembers Binding.after_dialect
  have hwhole : b.dialect.items? (b.textOf (q.fragment b.dialect)) =
      some (joinUnions first ps ++ []) := by
    rw [fragment_of_unions_ne_nil hunions, Binding.textOf_supply_cons,
      Binding.textOf_append hhead, hafter, List.append_nil]
    exact Dialect.items?_append hitems hps (.inr (startsApart_further _ _))
  refine ⟨_, hwhole, fun depth hdepth => ?_⟩
  rw [compound_eq]
  exact Compound.ofTokens?_joinUnions (items?_flatMap_tokens hwhole) hfirst hunited
    ⟨by simp, by simp⟩ (fun depth hdepth => hread depth hdepth _) hdepth

/-- In parentheses, the first member of a query keeps its ordering and limits. -/
lemma exists_items_bracket_simple (hq : q.IsReadable d) (herror : error? (q.simple d) = none)
    (hb : b.dialect = d) :
    ∃ is, d.items? (b.textOf (bracket (q.simple d))) = some is ∧
      Compound.IsMember is (q.first b) := by
  subst hb
  obtain ⟨cs, es, hspelled, hitems, -⟩ := exists_isSpelled hq herror rfl
  exact (hspelled.readsCompound hitems).isMember herror

end Query

mutual
/-- Where the members of a union stand in parentheses, every query is read with its structure. -/
lemma Query.readsCompound (hd : d.parenthesizesUnion = true) (q : Query)
    (hq : ∀ m ∈ q.members, m.IsReadable d) (herror : error? (q.fragment d) = none) :
    ∀ b : Binding, b.dialect = d → b.ReadsCompound (q.fragment d) (q.compound b) := by
  intro b hb
  match q with
  | ⟨select, option, distinct, tables, joins, filter, groupBy, having, orderBy, unions, limit,
      offset, indexBy, params⟩ =>
    rw [Query.members_eq, List.forall_mem_cons] at hq
    by_cases hunions : unions = []
    · exact Query.readsCompound_of_unions_eq_nil hunions hq.1 herror hb
    · obtain ⟨hsimple, hfurther⟩ := Query.error?_simple herror
      obtain ⟨first, hfirst, hmember⟩ :=
        Query.exists_items_bracket_simple hq.1 hsimple (b := b.merge params) hb
      refine Query.readsCompound_of_unions_ne_nil hunions herror hb ?_ hmember
        (readsCompound_unions hd unions hq.2 (forall_unionFragments.mp hfurther))
      rw [if_pos hd]
      exact hfirst

/-- The further members of a union are read in parentheses, each as its own structure. -/
lemma readsCompound_unions (hd : d.parenthesizesUnion = true) (unions : List UnionMember)
    (hq : ∀ m ∈ membersOfUnions unions, m.IsReadable d)
    (herror : ∀ u ∈ unions, error? (u.query.fragment d) = none) :
    ∀ u ∈ unions, ∀ b : Binding, b.dialect = d →
      ∃ is, d.items? (b.textOf (u.query.member d)) = some is ∧
        Compound.IsMember is (u.query.compound b) := by
  match unions with
  | [] => simp
  | ⟨q, all⟩ :: unions =>
    rw [membersOfUnions, List.forall_mem_append] at hq
    rw [List.forall_mem_cons] at herror ⊢
    refine ⟨fun b hb => ?_, readsCompound_unions hd unions hq.2 herror.2⟩
    have hmember := (q.readsCompound hd hq.1 herror.1 b hb).isMember herror.1
    rw [hb] at hmember
    rw [Query.member, if_pos hd]
    exact hmember
end

/-! ### Queries without parentheses -/

mutual
/-- Without parentheses, all that a query is read from are SELECTs, at any depth. -/
lemma Query.exists_items_selects (hd : d.parenthesizesUnion = false) (q : Query)
    (hq : ∀ m ∈ q.members, m.IsReadable d) (herror : error? (q.fragment d) = none) :
    ∀ b : Binding, b.dialect = d → ∃ first ps,
      d.items? (b.textOf (q.fragment d)) = some (joinUnions first ps) ∧
        ∀ is ∈ first :: ps.map Prod.snd, Formula.isQuery is = true ∧
          ∀ i ∈ is, i.isUnion = false := by
  intro b hb
  match q with
  | ⟨select, option, distinct, tables, joins, filter, groupBy, having, orderBy, unions, limit,
      offset, indexBy, params⟩ =>
    rw [Query.members_eq, List.forall_mem_cons] at hq
    obtain ⟨hsimple, hfurther⟩ := Query.error?_simple herror
    obtain ⟨cs, es, hspelled, hitems, htrim⟩ :=
      Query.exists_isSpelled hq.1 hsimple (b := b.merge params) hb
    have hselect := hspelled.isSelect
    by_cases hunions : unions = []
    · refine ⟨cs ++ es, [], ?_, by simpa using hselect⟩
      rw [Query.fragment_of_unions_eq_nil hunions, Binding.textOf_supply_cons, joinUnions,
        furtherItems, List.flatMap_nil, List.append_nil]
      exact htrim
    · obtain ⟨ps, hps, hselects⟩ := exists_items_selectsOfUnions hd unions hq.2
        (forall_unionFragments.mp hfurther) _
        (Binding.after_dialect.trans hb : ((b.merge params).after _).dialect = d)
      refine ⟨cs ++ es, ps, ?_, List.forall_mem_cons.mpr ⟨hselect, hselects⟩⟩
      rw [Query.fragment_of_unions_ne_nil hunions, hd, if_neg (by decide),
        Binding.textOf_supply_cons, Binding.textOf_append hsimple]
      exact Dialect.items?_append hitems hps (.inr (startsApart_further _ _))

/-- Without parentheses the further members are read as the SELECTs they are made of. -/
lemma exists_items_selectsOfUnions (hd : d.parenthesizesUnion = false)
    (unions : List UnionMember) (hq : ∀ m ∈ membersOfUnions unions, m.IsReadable d)
    (herror : ∀ u ∈ unions, error? (u.query.fragment d) = none) :
    ∀ b : Binding, b.dialect = d → ∃ ps,
      d.items? (b.textOf (further d unions)) = some (furtherItems ps) ∧
        ∀ is ∈ ps.map Prod.snd, Formula.isQuery is = true ∧ ∀ i ∈ is, i.isUnion = false := by
  intro b hb
  match unions with
  | [] => exact ⟨[], rfl, by simp⟩
  | ⟨q, all⟩ :: unions =>
    rw [membersOfUnions, List.forall_mem_append] at hq
    rw [List.forall_mem_cons] at herror
    obtain ⟨first, ps, hitems, hselects⟩ :=
      q.exists_items_selects hd hq.1 herror.1 b hb
    obtain ⟨ps', hps', hselects'⟩ := exists_items_selectsOfUnions hd unions hq.2 herror.2
      (b.after (q.fragment d)) (Binding.after_dialect.trans hb)
    have hmember : d.items? (b.textOf (q.member d)) = some (joinUnions first ps) := by
      rw [Query.member, hd]
      exact hitems
    refine ⟨(all, first) :: (ps ++ ps'), ?_, ?_⟩
    · rw [items?_further_cons herror.1 hmember hps', joinUnions, furtherItems, furtherItems,
        furtherItems, List.flatMap_cons, List.flatMap_append, List.append_assoc,
        List.append_assoc, List.append_assoc]
    · rw [List.map_cons, List.map_append, ← List.cons_append, List.forall_mem_append]
      exact ⟨hselects, hselects'⟩
end

end SqlCompose
