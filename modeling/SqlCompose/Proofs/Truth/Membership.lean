import Mathlib
import SqlCompose.Proofs.Truth.Fragment

/-!
# The truth of comparisons and memberships

Null checks, comparisons with a value and memberships in a list of tuples, with what they are on a
row. Lists are read component by component, whatever stands for the values in them.
-/

namespace SqlCompose

open Fragment Formula Interpretation

variable {α : Type*} {S : Interpretation α} {given : Value → Option α} {d : Dialect}

/-- A truth value, or its negation. -/
def Truth.negateIf (negated : Bool) (v : Truth) : Truth := if negated then v.not else v

/-! ### What is said of a tuple -/

section Saying

variable {q s : String} {xs : List (Option α)} {x : Option α} {f : Fragment}

/-- A tuple with a text after it that says something of it. -/
lemma says_saying (holds : Bool) (u : Truth) (hq : S.ReadsTuple d q xs) (hne : s ≠ "")
    (hstart : startsApart s = true)
    (h : ∀ b : Binding, b.dialect = d → S.Sees d given (b.placed f) → ∃ i js saying,
      d.items? (s ++ b.textOf f) = some (i :: js) ∧ i.isOperator = true ∧
        (∀ j ∈ i :: js, j.isPlain = true) ∧ Saying.ofItems? (i :: js) = some (holds, saying) ∧
        S.says? xs saying = some u) :
    Says S given d (.text (q ++ s) :: f) (if holds then u else u.not) := by
  intro b hb hsees
  subst hb
  obtain ⟨is, his, hsubject, rfl⟩ := hq
  obtain ⟨i, js, saying, hjs, hi, hplain, hread, hmeaning⟩ := h b rfl hsees
  have hitems : b.dialect.items? (b.textOf (.text (q ++ s) :: f)) = some (is ++ i :: js) := by
    rw [Binding.textOf_text_cons, String.append_assoc]
    exact Dialect.items?_append his hjs (.inr (startsApart_append hstart hne))
  refine ⟨_, ⟨_, hitems, reads_atom hsubject.toIsOperand (by simp) hplain⟩, ?_⟩
  exact gives_atom (items?_flatMap_tokens hitems) hsubject hi hread hmeaning

/-- A null check says whether the cell is null. -/
lemma says_isNull (hq : S.ReadsColumn d q x) :
    Says S given d [.text (q ++ " IS NULL")] (.ofBool x.isNone) := by
  refine says_saying true _ hq.readsTuple (by decide) (by decide) fun b hb _ => ?_
  have hnull : d.items? " IS NULL" = some [.token (.word "IS".toList),
      .token (.word "NULL".toList)] := by cases d <;> rfl
  exact ⟨_, _, .isNull, hnull, by decide, by decide, rfl, rfl⟩

/-- A scalar has no parentheses around it. -/
lemma denote_of_isScalarPart {is : List Item} (h : ∀ i ∈ is, i.isScalarPart = true) :
    S.denote is = S.operand (is.flatMap Item.tokens) := by
  unfold denote
  split
  · simp [Item.isScalarPart] at h
  · rfl

/-- The items that stand for a value, and what they stand for. -/
lemma exists_items_slot {b : Binding} {column : String} {v : Value} (hb : b.dialect = d)
    (hsees : S.Sees d given (b.placed [.slot column v])) :
    ∃ is, d.items? (b.textOf [.slot column v]) = some is ∧ is ≠ [] ∧
      (∀ i ∈ is, i.isScalarPart = true) ∧ S.denote is = given v := by
  subst hb
  obtain ⟨is, his, hne, hscalar⟩ := b.isScalar_bind column v
  refine ⟨is, ?_, hne, hscalar, hsees _ List.mem_cons_self is his⟩
  rw [Binding.textOf_slot_cons, Binding.textOf_nil, String.append_empty, his]

lemma compare?_single (y : Option α) :
    S.compare? [x] [y] = some (.ofComparison S.equal x y) := by
  simp [compare?]

/-- A comparison with a value. -/
lemma says_equals (hq : S.ReadsColumn d q x) (column : String) (v : Value) :
    Says S given d [.text (q ++ "="), .slot column v] (.ofComparison S.equal x (given v)) := by
  refine says_saying true (.ofComparison S.equal x (given v)) hq.readsTuple (by decide) (by decide)
    fun b hb hsees => ?_
  obtain ⟨is, his, hne, hscalar, hdenote⟩ := exists_items_slot hb hsees
  have hsign : d.items? "=" = some [.token (.symbol '=')] := by cases d <;> rfl
  refine ⟨_, is, .equals is, Dialect.items?_append hsign his (.inl (by decide)), by decide, ?_, ?_,
    ?_⟩
  · rw [List.forall_mem_cons]
    exact ⟨by decide, fun i hi => Item.isPlain_of_isScalarPart (hscalar i hi)⟩
  · have hoperand := operand?_eq_self hne fun i hi =>
      Item.isOperator_of_isScalarPart (hscalar i hi)
    simp [Saying.ofItems?, hoperand]
  · rw [says?, denoteAll, components_of_isScalarPart hscalar, List.map_singleton, hdenote,
      compare?_single]

/-- The comparison that is never true. -/
lemma says_falsity : Says S given d [.text "1=0"] .no := by
  have hone : S.ReadsColumn d "1" (S.operand [.word ['1']]) := by
    refine ⟨[.token (.word ['1'])], by cases d <;> rfl, ?_, rfl⟩
    exact ⟨⟨⟨by decide, by decide, by decide⟩, by decide⟩, by decide, rfl⟩
  have hequals : Says S given d [.text ("1" ++ "=0")] .no := by
    refine says_saying true .no hone.readsTuple (by decide) (by decide) fun b hb _ => ?_
    have hzero : d.items? "=0" = some [.token (.symbol '='), .token (.word ['0'])] := by
      cases d <;> rfl
    refine ⟨_, _, .equals [.token (.word ['0'])], hzero, by decide, by decide, rfl, ?_⟩
    have hdenote : S.denoteAll [.token (.word ['0'])] = [S.operand [.word ['0']]] := rfl
    rw [says?, hdenote, compare?_single, S.one_ne_zero]
  exact hequals

/-- A membership in what is read as a list in parentheses. -/
lemma says_among {u : Truth} {negated : Bool}
    (hq : S.ReadsTuple d q xs)
    (h : ∀ b : Binding, b.dialect = d → S.Sees d given (b.placed f) → ∃ ts inside gs,
      d.items? (b.textOf f) = some [.group ts inside] ∧
        Saying.among? [.group ts inside] = some (.among gs) ∧ S.says? xs (.among gs) = some u) :
    Says S given d (.text (q ++ if negated then " NOT IN " else " IN ") :: f)
      (u.negateIf negated) := by
  cases negated with
  | false =>
    refine says_saying true u hq (by decide) (by decide) fun b hb hsees => ?_
    obtain ⟨ts, inside, gs, hitems, hamong, hmeaning⟩ := h b hb hsees
    have hin : d.items? " IN " = some [.token (.word "IN".toList)] := by cases d <;> rfl
    refine ⟨.token (.word "IN".toList), [.group ts inside], .among gs,
      Dialect.items?_append hin hitems (.inl (by decide)), by decide, ?_, ?_, hmeaning⟩
    · simp [Item.isPlain, Item.isKeyword]
    · have hread : Saying.ofItems? [.token (.word "IN".toList), .group ts inside] =
          (Saying.among? [.group ts inside]).map fun saying => (true, saying) := rfl
      rw [hread, hamong, Option.map_some]
  | true =>
    refine says_saying false u hq (by decide) (by decide) fun b hb hsees => ?_
    obtain ⟨ts, inside, gs, hitems, hamong, hmeaning⟩ := h b hb hsees
    have hin : d.items? " NOT IN " = some [.token (.word "NOT".toList),
        .token (.word "IN".toList)] := by cases d <;> rfl
    refine ⟨.token (.word "NOT".toList), [.token (.word "IN".toList), .group ts inside],
      .among gs, Dialect.items?_append hin hitems (.inl (by decide)), by decide, ?_, ?_, hmeaning⟩
    · simp [Item.isPlain, Item.isKeyword]
    · have hread : Saying.ofItems? [.token (.word "NOT".toList), .token (.word "IN".toList),
          .group ts inside] =
          (Saying.among? [.group ts inside]).map fun saying => (false, saying) := rfl
      rw [hread, hamong, Option.map_some]

end Saying

/-! ### Lists and tuples -/

/-- In parentheses a text is one item. -/
lemma items?_textOf_bracket {b : Binding} {f : Fragment} {is : List Item}
    (herror : error? f = none) (h : d.items? (b.textOf f) = some is) :
    d.items? (b.textOf (bracket f)) = some [.group (is.flatMap Item.tokens) (ofGroup? is)] := by
  rw [Binding.textOf_bracket herror]
  exact Dialect.items?_parens h

/-- Fragments with a comma between neighbours, each of which is read as items of a kind. -/
lemma exists_items_join {β : Type*} {P : List Item → β → Prop} {fs : List Fragment} {ys : List β}
    (h : List.Forall₂ (fun f y => error? f = none ∧ ∀ b : Binding, b.dialect = d →
      S.Sees d given (b.placed f) → ∃ is, d.items? (b.textOf f) = some is ∧ P is y) fs ys)
    {b : Binding} (hb : b.dialect = d) (hsees : S.Sees d given (b.placed (join ", " fs))) :
    ∃ iss, d.items? (b.textOf (join ", " fs)) = some ([Item.comma].intercalate iss) ∧
      List.Forall₂ P iss ys := by
  subst hb
  unfold join at hsees ⊢
  -- by induction on the fragments: each one is written from what the one before it leaves
  generalize hdialect : b.dialect = d at h hsees ⊢
  induction h generalizing b with
  | nil =>
    refine ⟨[], ?_, .nil⟩
    subst hdialect
    rfl
  | @cons f y fs ys hf hrest ih =>
    cases hrest with
    | nil =>
      rw [List.intercalate_singleton] at hsees ⊢
      obtain ⟨is, his, hP⟩ := hf.2 b hdialect hsees
      exact ⟨[is], by simpa using his, .cons hP .nil⟩
    | @cons g z gs zs hg hrest =>
      rw [List.intercalate_cons_cons, List.append_assoc, Binding.placed_append hf.1,
        sees_append] at hsees
      obtain ⟨is, his, hP⟩ := hf.2 b hdialect hsees.1
      obtain ⟨iss, hiss, hall⟩ := ih (b := b.after f) (by rw [Binding.after_dialect, hdialect])
        hsees.2
      have hcomma : d.items? ", " = some [Item.comma] := by cases d <;> rfl
      refine ⟨is :: iss, ?_, .cons hP hall⟩
      obtain ⟨js, jss, rfl⟩ := List.exists_cons_of_ne_nil
        (l := iss) (by rintro rfl; cases hall)
      rw [List.intercalate_cons_cons, List.append_assoc, Binding.textOf_append hf.1,
        List.intercalate_cons_cons, List.append_assoc]
      have hafter := Dialect.items?_append hcomma hiss (.inl (by decide))
      exact Dialect.items?_append his hafter (.inr (startsApart_append (by decide) (by decide)))

/-- What a tuple in parentheses stands for. -/
lemma denoteAll_group {iss : List (List Item)} {ts : List Token} {inside : Option Formula}
    (hne : iss ≠ []) (hcomma : ∀ is ∈ iss, Item.comma ∉ is)
    (hsingle : ∀ is, iss = [is] → S.denote is = S.operand (is.flatMap Item.tokens))
    (hts : items? ts = some ([Item.comma].intercalate iss)) :
    S.denoteAll [.group ts inside] = iss.map S.denote := by
  match iss with
  | [is] =>
    rw [List.intercalate_singleton] at hts
    have hnot : is.contains Item.comma = false := by
      simpa using hcomma is List.mem_cons_self
    have hcomponents : components [.group ts inside] = [[.group ts inside]] := by
      simp only [components, hts, hnot, Bool.false_eq_true, if_false]
    rw [denoteAll, hcomponents, List.map_singleton, List.map_singleton, hsingle is rfl,
      flatMap_tokens_of_items? hts]
    rfl
  | is :: js :: iss =>
    have hmem : ([Item.comma].intercalate (is :: js :: iss)).contains Item.comma = true := by
      rw [List.intercalate_cons_cons]
      simp
    have hcomponents : components [.group ts inside] = is :: js :: iss := by
      simp only [components, hts, hmem, if_true]
      exact List.splitOn_intercalate Item.comma hcomma hne
    rw [denoteAll, hcomponents]

/-- A list of tuples in parentheses, as the members that it is read as. -/
lemma among?_group {gs : List (List Item)} {ts : List Token} {inside : Option Formula}
    (hne : gs ≠ []) (hcomma : ∀ g ∈ gs, Item.comma ∉ g)
    (hts : items? ts = some ([Item.comma].intercalate gs)) :
    Saying.among? [.group ts inside] = some (.among gs) := by
  rw [Saying.among?, hts, Option.map_some, List.splitOn_intercalate Item.comma hcomma hne]

/-- The comparisons with tuples of the same width. -/
lemma says?_among {xs : List (Option α)} {gs : List (List Item)} {yss : List (List (Option α))}
    (h : List.Forall₂ (fun g ys => S.denoteAll g = ys) gs yss)
    (hwidth : ∀ ys ∈ yss, ys.length = xs.length) :
    S.says? xs (.among gs) =
      some (.any (yss.map fun ys => .all (List.zipWith (.ofComparison S.equal) xs ys))) := by
  have hcompare : (gs.mapM fun g => S.compare? xs (S.denoteAll g)) =
      some (yss.map fun ys => .all (List.zipWith (.ofComparison S.equal) xs ys)) := by
    induction h with
    | nil => rfl
    | @cons g ys gs yss hg _ ih =>
      subst hg
      rw [List.forall_mem_cons] at hwidth
      rw [List.mapM_cons, ih hwidth.2, compare?, if_pos hwidth.1.symm]
      rfl
  rw [says?, hcompare, Option.map_some]

def slots (cells : List (String × Value)) : Fragment :=
  join ", " (cells.map fun (column, v) => [.slot column v])

/-- The slots of some rows, each row in parentheses. -/
def tuples (columns : List String) (rows : List (List Value)) : Fragment :=
  join ", " (rows.map fun row => bracket (slots (columns.zip row)))

lemma error?_slots (cells : List (String × Value)) : error? (slots cells) = none := by
  rw [slots, error?_join]
  intro f hf
  obtain ⟨cell, -, rfl⟩ := List.mem_map.mp hf
  rfl

/-- Each slot is read as the value that it stands for. -/
lemma exists_items_slots {cells : List (String × Value)} {b : Binding} (hb : b.dialect = d)
    (hsees : S.Sees d given (b.placed (slots cells))) :
    ∃ iss, d.items? (b.textOf (slots cells)) = some ([Item.comma].intercalate iss) ∧
      List.Forall₂ (fun is cell => (∀ i ∈ is, i.isScalarPart = true) ∧ S.denote is = given cell.2)
        iss cells := by
  have hcells : List.Forall₂ (fun f cell => error? f = none ∧ ∀ b : Binding, b.dialect = d →
      S.Sees d given (b.placed f) → ∃ is, d.items? (b.textOf f) = some is ∧
        ((∀ i ∈ is, i.isScalarPart = true) ∧ S.denote is = given cell.2))
      (cells.map fun (column, v) => [Piece.slot column v]) cells := by
    rw [List.forall₂_map_left_iff]
    refine List.forall₂_same.mpr fun cell _ => ⟨rfl, fun b hb hsees => ?_⟩
    obtain ⟨is, his, -, hscalar, hdenote⟩ := exists_items_slot hb hsees
    exact ⟨is, his, hscalar, hdenote⟩
  exact exists_items_join hcells hb hsees

/-- A scalar has no comma. -/
lemma comma_not_mem_of_isScalarPart {is : List Item} (h : ∀ i ∈ is, i.isScalarPart = true) :
    Item.comma ∉ is :=
  fun hcomma => Item.ne_comma_of_isScalarPart (h _ hcomma) rfl

/-- The values of a row, in parentheses. -/
lemma exists_items_row {cells : List (String × Value)} (hne : cells ≠ []) {b : Binding}
    (hb : b.dialect = d) (hsees : S.Sees d given (b.placed (bracket (slots cells)))) :
    ∃ ts inside, d.items? (b.textOf (bracket (slots cells))) = some [.group ts inside] ∧
      S.denoteAll [.group ts inside] = cells.map fun cell => given cell.2 := by
  have herror := error?_slots cells
  rw [Binding.placed_bracket herror] at hsees
  obtain ⟨iss, hiss, hall⟩ := exists_items_slots hb hsees
  obtain ⟨hscalars, hdenotes⟩ := (List.forall₂_and_left iss cells).mp hall
  have hvalues : iss.map S.denote = cells.map fun cell => given cell.2 := by
    rw [← List.forall₂_eq_eq_eq, List.forall₂_map_left_iff, List.forall₂_map_right_iff]
    exact hdenotes
  have hnil : iss ≠ [] := by
    rintro rfl
    exact hne (List.forall₂_nil_left_iff.mp hall)
  refine ⟨_, _, items?_textOf_bracket herror hiss, ?_⟩
  rw [denoteAll_group hnil ?_ ?_ (items?_flatMap_tokens hiss), hvalues]
  · exact fun is his => comma_not_mem_of_isScalarPart (hscalars is his)
  · rintro is rfl
    exact denote_of_isScalarPart (hscalars is List.mem_cons_self)

end SqlCompose
