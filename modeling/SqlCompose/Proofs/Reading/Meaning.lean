import Mathlib
import SqlCompose.Proofs.Draft
import SqlCompose.Proofs.Reading.Condition
import SqlCompose.Proofs.Reading.Grouping
import SqlCompose.Proofs.Reading.Name

/-!
# The meaning of a written condition

The truth value of a condition is that of its predicates, combined as its groups say. Its text has
the same truth value, whatever that of the atomic predicates, if the condition is grouped. If it is
not grouped and no atomic predicate stands in its text twice, its text means something else.
-/

namespace SqlCompose

open Fragment Formula

variable {b : Binding} {σ : List Token → Bool}

/-! ### Truth values -/

/-- The truth value of a text on its own. -/
def Dialect.truth (d : Dialect) (σ : List Token → Bool) (s : String) : Bool :=
  (d.read? s).any (eval σ)

def Binding.allTrue (σ : List Token → Bool) (b : Binding) : List Fragment → Bool
  | [] => true
  | f :: fs => b.dialect.truth σ (b.textOf f) && (b.after f).allTrue σ fs

mutual
/-- The truth value of a condition that is written from a binding. -/
def Condition.holds (σ : List Token → Bool) (b : Binding) : Condition → Bool
  | .hash pairs => b.allTrue σ (hashFragments b.dialect pairs)
  | .and items => allHold σ b items
  | .or items => anyHolds σ b items
  | .not item => !item.holds σ b
  | c => b.dialect.truth σ (b.textOf (c.fragment b.dialect))

def allHold (σ : List Token → Bool) (b : Binding) : List Condition → Bool
  | [] => true
  | item :: items => item.holds σ b && allHold σ (b.after (item.fragment b.dialect)) items

/-- Whether a member of a group holds. -/
def anyHolds (σ : List Token → Bool) (b : Binding) : List Condition → Bool
  | [] => false
  | item :: items => item.holds σ b || anyHolds σ (b.after (item.fragment b.dialect)) items
end

/-! ### How conditions are spelled -/

/-- What the text of a fragment is read as. -/
def Binding.phrase (b : Binding) (f : Fragment) : Spelling :=
  .phrase (b.dialect.parts (b.textOf f))

def Binding.phrases (b : Binding) : List Fragment → List Spelling
  | [] => []
  | f :: fs => b.phrase f :: (b.after f).phrases fs

mutual
/-- The groups and the parentheses of the text of a condition. -/
def Condition.spelling (b : Binding) : Condition → Spelling
  | .hash pairs => .join true (b.phrases (hashFragments b.dialect pairs))
  | .and items => .join true (memberSpellings true (decide (items.length ≤ 1)) b items)
  | .or items => .join false (memberSpellings false (decide (items.length ≤ 1)) b items)
  | .not item => .not (item.spelling b)
  | c => b.phrase (c.fragment b.dialect)

/-- The spellings of the members of a group. -/
def memberSpellings (conjunction alone : Bool) (b : Binding) : List Condition → List Spelling
  | [] => []
  | item :: items =>
    (if needsBrackets conjunction item && !alone then .parens (item.spelling b)
      else item.spelling b) ::
      memberSpellings conjunction alone (b.after (item.fragment b.dialect)) items
end

/-- A spelling tells what a condition is read as, and what it means. -/
structure Condition.IsSpelled (b : Binding) (c : Condition) : Prop where
  reads : b.Reads (c.fragment b.dialect) (c.spelling b).parts
  isFull : (c.spelling b).IsFull
  means : ∀ σ, (c.spelling b).means σ = c.holds σ b
  isOpen : (c.spelling b).isOpen = c.isOpen b.dialect
  grouped : (c.spelling b).Grouped ↔ c.IsGrouped b.dialect

/-! ### Conditions that are no groups -/

lemma Binding.means_phrase (b : Binding) (f : Fragment) (σ : List Token → Bool) :
    (b.phrase f).means σ = b.dialect.truth σ (b.textOf f) := b.dialect.any_parts (b.textOf f)

/-- A predicate is one part. -/
lemma Binding.reads_phrase {f : Fragment} {p : Formula} (h : b.Reads f [p]) :
    b.Reads f (b.phrase f).parts ∧ (b.phrase f).isOpen = false := by
  obtain ⟨is, his, hreads⟩ := h
  obtain ⟨hparts, hlength⟩ := Dialect.reads_parts his hreads
  refine ⟨⟨is, his, hparts⟩, ?_⟩
  rw [Spelling.isOpen, decide_eq_false_iff_not]
  exact hlength.not_gt

lemma Binding.Reads.ne_nil {f : Fragment} {ps : List Formula} (h : b.Reads f ps) : ps ≠ [] := by
  obtain ⟨_, _, hreads⟩ := h
  exact hreads.parts_ne_nil

/-- Predicates one after the other. -/
lemma Binding.readsAll_phrases {d : Dialect} {fs : List Fragment} (hb : b.dialect = d)
    (h : ∀ f ∈ fs, f.error? = none ∧ IsPredicate d f) :
    b.ReadsAll fs (b.phrases fs) ∧ (b.phrases fs).any Spelling.isOpen = false ∧
      (∀ s ∈ b.phrases fs, s.Grouped) ∧
      ∀ σ, (b.phrases fs).all (Spelling.means σ) = b.allTrue σ fs := by
  induction fs generalizing b with
  | nil => exact ⟨.nil, rfl, by simp [phrases], fun _ => rfl⟩
  | cons f fs ih =>
    rw [List.forall_mem_cons] at h
    obtain ⟨⟨herror, hf⟩, hfs⟩ := h
    obtain ⟨p, hp⟩ := hf b hb
    obtain ⟨hreads, hopen⟩ := reads_phrase hp
    obtain ⟨hall, hopens, hgrouped, hmeans⟩ := ih (b := b.after f) (by rw [after_dialect, hb]) hfs
    refine ⟨.cons herror hreads hreads.ne_nil hall, ?_, ?_, ?_⟩
    · rw [phrases, List.any_cons, hopen, hopens, Bool.or_self]
    · rw [phrases, List.forall_mem_cons]
      exact ⟨trivial, hgrouped⟩
    · intro σ
      rw [phrases, List.all_cons, means_phrase, hmeans, allTrue]

namespace Condition

/-- A condition that is read as a whole. -/
lemma isSpelled_phrase {c : Condition} {f : Fragment}
    (hfragment : c.fragment b.dialect = f)
    (hspelling : c.spelling b = b.phrase (c.fragment b.dialect))
    (hholds : ∀ σ, c.holds σ b = b.dialect.truth σ (b.textOf (c.fragment b.dialect)))
    (hgrouped : c.IsGrouped b.dialect) (hreads : b.Reads f (b.phrase f).parts)
    (hopen : (b.phrase f).isOpen = c.isOpen b.dialect) : c.IsSpelled b where
  reads := by rwa [hspelling, hfragment]
  isFull := by
    rw [hspelling, hfragment]
    exact hreads.ne_nil
  means := fun σ => by rw [hspelling, hholds, Binding.means_phrase]
  isOpen := by rw [hspelling, hfragment, hopen]
  grouped := by
    rw [hspelling]
    exact iff_of_true trivial hgrouped

/-- A predicate is a spelling without groups. -/
lemma isSpelled_of_isPredicate {c : Condition}
    (hspelling : c.spelling b = b.phrase (c.fragment b.dialect))
    (hholds : ∀ σ, c.holds σ b = b.dialect.truth σ (b.textOf (c.fragment b.dialect)))
    (hgrouped : c.IsGrouped b.dialect) (hopen : c.isOpen b.dialect = false)
    (h : IsPredicate b.dialect (c.fragment b.dialect)) : c.IsSpelled b := by
  obtain ⟨p, hp⟩ := h b rfl
  obtain ⟨hreads, hphrase⟩ := Binding.reads_phrase hp
  exact isSpelled_phrase rfl hspelling hholds hgrouped hreads (by rw [hphrase, hopen])

/-- A condition that is taken over verbatim. -/
lemma isSpelled_of_read? {c : Condition} {sql : String} {params : Params}
    (hfragment : c.fragment b.dialect = [.supply params, .text (Text.trim sql)])
    (hspelling : c.spelling b = b.phrase (c.fragment b.dialect))
    (hholds : ∀ σ, c.holds σ b = b.dialect.truth σ (b.textOf (c.fragment b.dialect)))
    (hgrouped : c.IsGrouped b.dialect) (hopen : c.isOpen b.dialect = b.dialect.isDisjunction sql)
    (h : (b.dialect.read? (Text.trim sql)).isSome = true) : c.IsSpelled b := by
  have htext : b.textOf [.supply params, .text (Text.trim sql)] = Text.trim sql := by
    rw [Binding.textOf_supply_cons, Binding.textOf_text_cons, Binding.textOf_nil,
      String.append_empty]
  refine isSpelled_phrase hfragment hspelling hholds hgrouped ?_ ?_
  · obtain ⟨is, his, hreads⟩ := Dialect.exists_reads_parts h
    exact ⟨is, by rw [htext, his], by rwa [Binding.phrase, htext]⟩
  · rw [hopen, Binding.phrase, htext, Spelling.isOpen, Spelling.parts, Dialect.isDisjunction]

/-- A hash is the conjunction of its predicates. -/
lemma isSpelled_hash {pairs : List (String × Operand)} (h : (hash pairs).IsReadable b.dialect)
    (herror : error? ((hash pairs).fragment b.dialect) = none) : (hash pairs).IsSpelled b := by
  obtain ⟨hne, hpairs⟩ := h
  rw [Condition.fragment, error?_joinNonBlank] at herror
  have hpredicates := isPredicate_hashFragments hpairs herror
  obtain ⟨hall, hopen, hgrouped, hmeans⟩ := Binding.readsAll_phrases (b := b) rfl
    fun f hf => ⟨herror f hf, hpredicates f hf⟩
  have hfs : hashFragments b.dialect pairs ≠ [] := by
    obtain ⟨⟨column, operand⟩, pairs, rfl⟩ := List.exists_cons_of_ne_nil hne
    cases operand <;> simp [hashFragments]
  have hss : b.phrases (hashFragments b.dialect pairs) ≠ [] := by
    obtain ⟨f, fs, hf⟩ := List.exists_cons_of_ne_nil hfs
    rw [hf]
    simp [Binding.phrases]
  have hblank : ∀ f ∈ hashFragments b.dialect pairs, f.isBlank = false := by
    intro f hf
    obtain ⟨p, hp⟩ := hpredicates f hf b rfl
    exact hp.isBlank_eq_false
  have hfull := hall.isFull
  constructor
  · rw [Condition.fragment, Condition.spelling, joinNonBlank_eq_join hblank]
    exact hall.join hfs true
  · exact Spelling.isFull_join hss hfull
  · intro σ
    rw [Condition.spelling, Spelling.means_join_and hss, hmeans, Condition.holds]
  · rw [Condition.spelling, Spelling.isOpen_join_and hss hfull, hopen]
    rfl
  · rw [Condition.spelling, Spelling.grouped_join_and hfull]
    exact iff_of_true ⟨fun _ => hopen, hgrouped⟩ trivial

end Condition

/-! ### Groups -/

/-- What the spellings of the members of a group tell. -/
structure AreSpelled (conjunction alone : Bool) (b : Binding) (items : List Condition) : Prop where
  reads : b.ReadsAll ((memberFragments b.dialect conjunction items).map fun m =>
      if m.1 && !alone then bracket m.2 else m.2) (memberSpellings conjunction alone b items)
  isBlank : ∀ m ∈ memberFragments b.dialect conjunction items, m.2.isBlank = false
  all_means : ∀ σ,
    (memberSpellings conjunction alone b items).all (Spelling.means σ) = allHold σ b items
  any_means : ∀ σ,
    (memberSpellings conjunction alone b items).any (Spelling.means σ) = anyHolds σ b items
  any_isOpen : (memberSpellings conjunction alone b items).any Spelling.isOpen =
    anyOpen b.dialect conjunction alone items
  grouped : (∀ s ∈ memberSpellings conjunction alone b items, s.Grouped) ↔
    areGrouped b.dialect items

lemma areSpelled_nil (conjunction alone : Bool) (b : Binding) :
    AreSpelled conjunction alone b [] where
  reads := .nil
  isBlank := by simp [memberFragments]
  all_means _ := rfl
  any_means _ := rfl
  any_isOpen := rfl
  grouped := by simp [memberSpellings, areGrouped]

/-- A member is read and means the same with and without parentheses. -/
lemma Condition.IsSpelled.member {item : Condition} (h : item.IsSpelled b)
    (herror : error? (item.fragment b.dialect) = none) (brackets : Bool) {f : Fragment}
    (hf : f = if brackets then bracket (item.fragment b.dialect) else item.fragment b.dialect)
    {s : Spelling} (hs : s = if brackets then .parens (item.spelling b) else item.spelling b) :
    (error? f = none ∧ b.after f = b.after (item.fragment b.dialect)) ∧ b.Reads f s.parts ∧
      s.IsFull ∧ (∀ σ, s.means σ = item.holds σ b) ∧
      s.isOpen = (!brackets && item.isOpen b.dialect) ∧
      (s.Grouped ↔ item.IsGrouped b.dialect) := by
  obtain ⟨hreads, hfull, hmeans, hopen, hgrouped⟩ := h
  cases brackets with
  | false =>
    rw [if_neg (by decide)] at hf hs
    subst hf hs
    exact ⟨⟨herror, rfl⟩, hreads, hfull, hmeans, by rw [hopen]; rfl, hgrouped⟩
  | true =>
    rw [if_pos rfl] at hf hs
    subst hf hs
    refine ⟨⟨(error?_bracket _).mpr herror, Binding.after_bracket herror⟩, hreads.bracket herror,
      hfull, hmeans, rfl, hgrouped⟩

/-- A member is written from what the members before it have bound. -/
lemma areSpelled_cons {conjunction alone : Bool} {item : Condition} {items : List Condition}
    (herror : error? (item.fragment b.dialect) = none) (hitem : item.IsSpelled b)
    (hitems : AreSpelled conjunction alone (b.after (item.fragment b.dialect)) items) :
    AreSpelled conjunction alone b (item :: items) := by
  obtain ⟨hreads, hblank, hall, hany, hopen, hgrouped⟩ := hitems
  -- parentheses bind nothing, so the other members start from the same binding
  rw [Binding.after_dialect] at hreads hblank hopen hgrouped
  obtain ⟨⟨herror', hafter⟩, hreads', hfull', hmeans', hopen', hgrouped'⟩ :=
    hitem.member herror (needsBrackets conjunction item && !alone) rfl rfl
  constructor
  · rw [memberFragments, memberSpellings, List.map_cons]
    refine .cons herror' hreads' hfull' ?_
    rwa [hafter]
  · rw [memberFragments, List.forall_mem_cons]
    exact ⟨hitem.reads.isBlank_eq_false, hblank⟩
  · intro σ
    rw [memberSpellings, List.all_cons, hmeans', hall, allHold]
  · intro σ
    rw [memberSpellings, List.any_cons, hmeans', hany, anyHolds]
  · rw [memberSpellings, List.any_cons, hopen', hopen, anyOpen]
  · rw [memberSpellings, List.forall_mem_cons, hgrouped', hgrouped, areGrouped]

lemma memberFragments_eq_map (d : Dialect) (conjunction : Bool) (items : List Condition) :
    memberFragments d conjunction items =
      items.map fun item => (needsBrackets conjunction item, item.fragment d) := by
  induction items with
  | nil => rfl
  | cons item items ih => rw [memberFragments, ih, List.map_cons]

lemma length_memberFragments (d : Dialect) (conjunction : Bool) (items : List Condition) :
    (memberFragments d conjunction items).length = items.length := by
  rw [memberFragments_eq_map, List.length_map]

lemma length_memberSpellings (conjunction alone : Bool) (b : Binding) (items : List Condition) :
    (memberSpellings conjunction alone b items).length = items.length := by
  induction items generalizing b with
  | nil => rfl
  | cons item items ih => rw [memberSpellings, List.length_cons, ih, List.length_cons]

/-- The text of a group. -/
lemma AreSpelled.reads_group {conjunction : Bool} {items : List Condition}
    (h : AreSpelled conjunction (decide (items.length ≤ 1)) b items) (hne : items ≠ []) :
    b.Reads (group conjunction (memberFragments b.dialect conjunction items))
        (Spelling.join conjunction
          (memberSpellings conjunction (decide (items.length ≤ 1)) b items)).parts ∧
      memberSpellings conjunction (decide (items.length ≤ 1)) b items ≠ [] := by
  have hlength := List.length_pos_of_ne_nil hne
  constructor
  · have hreads := h.reads
    rw [group_eq_join h.isBlank, length_memberFragments]
    refine hreads.join (List.ne_nil_of_length_pos ?_) conjunction
    rwa [List.length_map, length_memberFragments]
  · apply List.ne_nil_of_length_pos
    rwa [length_memberSpellings]

namespace Condition

/-- A conjunction of members with a spelling has one. -/
lemma isSpelled_and {items : List Condition} (hne : items ≠ [])
    (h : AreSpelled true (decide (items.length ≤ 1)) b items) : (and items).IsSpelled b := by
  obtain ⟨hreads, hss⟩ := h.reads_group hne
  have hfull := h.reads.isFull
  constructor
  · rwa [Condition.fragment, Condition.spelling]
  · exact Spelling.isFull_join hss hfull
  · intro σ
    rw [Condition.spelling, Spelling.means_join_and hss, h.all_means, Condition.holds]
  · rw [Condition.spelling, Spelling.isOpen_join_and hss hfull, h.any_isOpen, Condition.isOpen]
  · rw [Condition.spelling, Spelling.grouped_join_and hfull, h.grouped, h.any_isOpen,
      length_memberSpellings, Condition.IsGrouped]
    refine and_congr_left fun _ => forall_congr' fun hlength => ?_
    rw [decide_eq_false (by omega)]

lemma isSpelled_or {items : List Condition} (hne : items ≠ [])
    (h : AreSpelled false (decide (items.length ≤ 1)) b items) : (or items).IsSpelled b := by
  obtain ⟨hreads, hss⟩ := h.reads_group hne
  have hfull := h.reads.isFull
  constructor
  · rwa [Condition.fragment, Condition.spelling]
  · exact Spelling.isFull_join hss hfull
  · intro σ
    rw [Condition.spelling, Spelling.means_join_or, h.any_means, Condition.holds]
  · rw [Condition.spelling, Spelling.isOpen_join_or hfull hss, h.any_isOpen,
      length_memberSpellings, Condition.isOpen]
  · rw [Condition.spelling, Spelling.grouped_join_or, h.grouped, Condition.IsGrouped]

/-- A negation has its member in parentheses. -/
lemma isSpelled_not {item : Condition} (herror : error? (item.fragment b.dialect) = none)
    (h : item.IsSpelled b) : (not item).IsSpelled b := by
  obtain ⟨hreads, hfull, hmeans, -, hgrouped⟩ := h
  constructor
  · rw [Condition.fragment, Condition.spelling, hreads.isBlank_eq_false, if_neg (by decide)]
    exact hreads.not herror
  · exact hfull
  · intro σ
    rw [Condition.spelling, Spelling.means, hmeans, Condition.holds]
  · rfl
  · exact hgrouped

lemma error?_not {d : Dialect} {item : Condition} (h : error? ((not item).fragment d) = none) :
    error? (item.fragment d) = none := by
  rw [Condition.fragment] at h
  split at h
  · exact h
  · rwa [error?_text_cons, error?_bracket] at h

end Condition

open Condition in
mutual
/-- What a condition is read as, and what it means. -/
theorem Condition.isSpelled {b : Binding} (c : Condition) (h : c.IsReadable b.dialect)
    (herror : error? (c.fragment b.dialect) = none) : c.IsSpelled b := by
  match c with
  | .hash pairs => exact isSpelled_hash h herror
  | .and items =>
    rw [Condition.fragment, error?_group] at herror
    exact isSpelled_and h.1 (areSpelled items h.2 herror)
  | .or items =>
    rw [Condition.fragment, error?_group] at herror
    exact isSpelled_or h.1 (areSpelled items h.2 herror)
  | .not item => exact isSpelled_not (error?_not herror) (item.isSpelled h (error?_not herror))
  | .between column low high negated =>
    have hpredicate : IsPredicate b.dialect
        ((Condition.between column low high negated).fragment b.dialect) :=
      isPredicate_between h column low high negated
    exact isSpelled_of_isPredicate rfl (fun _ => rfl) trivial rfl hpredicate
  | .within .. =>
    exact isSpelled_of_isPredicate rfl (fun _ => rfl) trivial rfl (isPredicate_within h herror)
  | .like op column values rawPattern =>
    have hpredicate : IsPredicate b.dialect
        ((Condition.like op column values rawPattern).fragment b.dialect) :=
      isPredicate_like h.1 op values rawPattern herror fun hvalues => by
        have hblank := h.2
        rwa [hvalues] at hblank
    exact isSpelled_of_isPredicate rfl (fun _ => rfl) trivial rfl hpredicate
  | .exist .. =>
    exact isSpelled_of_isPredicate rfl (fun _ => rfl) trivial rfl (isPredicate_exist h herror)
  | .compare .. =>
    exact isSpelled_of_isPredicate rfl (fun _ => rfl) trivial rfl (isPredicate_compare h herror)
  | .raw .. => exact isSpelled_of_read? rfl rfl (fun _ => rfl) trivial rfl h
  | .expr e => exact isSpelled_of_read? rfl rfl (fun _ => rfl) trivial rfl h
  | .lookup .. =>
    exact isSpelled_of_isPredicate rfl (fun _ => rfl) trivial rfl (isPredicate_lookup h herror)

/-- The members of a group that can be read have spellings. -/
theorem areSpelled {conjunction alone : Bool} {b : Binding} (items : List Condition)
    (h : areReadable b.dialect items)
    (herror : ∀ m ∈ memberFragments b.dialect conjunction items, error? m.2 = none) :
    AreSpelled conjunction alone b items := by
  match items with
  | [] => exact areSpelled_nil conjunction alone b
  | item :: items =>
    rw [memberFragments, List.forall_mem_cons] at herror
    have hdialect : (b.after (item.fragment b.dialect)).dialect = b.dialect := Binding.after_dialect
    refine areSpelled_cons herror.1 (item.isSpelled h.1 herror.1) (areSpelled items ?_ ?_)
    · rw [hdialect]
      exact h.2
    · rw [hdialect]
      exact herror.2
end

/-- The text of a condition is read as a formula, which means what is meant if the condition is
grouped. -/
lemma Condition.IsSpelled.exists_read? {c : Condition} (h : c.IsSpelled b) :
    ∃ f, b.dialect.read? (b.textOf (c.fragment b.dialect)) = some f ∧
      (c.IsGrouped b.dialect → ∀ τ, f.value τ = (c.spelling b).value τ) := by
  obtain ⟨⟨is, his, hreads⟩, hfull, -, -, hgrouped⟩ := h
  obtain ⟨f, hf, halike⟩ := hreads.exists_ofItems?
  refine ⟨f, ?_, fun hall τ => ?_⟩
  · rw [Dialect.read?, his]
    exact hf
  · rw [halike.value, Spelling.value_anyOf hreads.parts_ne_nil,
      Spelling.read_value hfull (hgrouped.mpr hall)]

/-- The text of a condition is read as a formula. If the condition is grouped, the formula has the
truth value of the condition, whatever that of the atomic predicates. If it is not grouped and no
atomic predicate stands in the text twice, there are truth values for which the two differ. -/
theorem Builder.condition_read_iff_grouped {b : Builder} {c : Condition} {out : Built}
    (hc : c.IsReadable b.dialect) (h : b.condition c = .ok out) :
    ∃ f, b.dialect.read? out.sql = some f ∧
      (c.IsGrouped b.dialect → ∀ σ, f.eval σ = c.holds σ (b.startFor (.condition c))) ∧
      (¬c.IsGrouped b.dialect → f.atoms.Nodup →
        ∃ σ, f.eval σ ≠ c.holds σ (b.startFor (.condition c))) := by
  have hwrite : b.write (.condition c) = .ok out := h
  have herror : error? (c.fragment b.dialect) = none := error?_eq_none_of_write hwrite
  have hsql : out.sql = (b.startFor (.condition c)).textOf (c.fragment b.dialect) :=
    sql_of_write hwrite
  have hspelled : c.IsSpelled (b.startFor (.condition c)) := c.isSpelled hc herror
  obtain ⟨⟨is, his, hreads⟩, hfull, hmeans, -, hgrouped⟩ := hspelled
  obtain ⟨f, hf, halike⟩ := hreads.exists_ofItems?
  rw [startFor_dialect] at his hgrouped
  have heval (σ : List Token → Bool) : f.eval σ =
      (c.spelling (b.startFor (.condition c))).parts.any (eval σ) := by
    rw [halike.eval, eval_anyOf hreads.parts_ne_nil]
  refine ⟨f, ?_, ?_, ?_⟩
  · rw [hsql, Dialect.read?, his]
    exact hf
  · intro h σ
    rw [heval, Spelling.read_eq_means hfull (hgrouped.mpr h), hmeans]
  · intro h hnodup
    rw [halike.atoms, atoms_anyOf hreads.parts_ne_nil, Spelling.flatMap_atoms_parts hfull] at hnodup
    obtain ⟨σ, hσ⟩ := Spelling.exists_misread hfull hnodup (mt hgrouped.mp h)
    exact ⟨σ, by rwa [heval, ← hmeans]⟩

namespace Builder

/-- A disjunction as the only member of a conjunction, which is a member of another conjunction. -/
def loneDisjunction : Condition :=
  .and [.and [.or [.compare "a" .eq (.value (.int 1)), .compare "b" .eq (.value (.int 2))]],
    .compare "c" .eq (.value (.int 3))]

theorem condition_read_iff_grouped_loneDisjunction :
    loneDisjunction.IsReadable .mysql ∧ ¬loneDisjunction.IsGrouped .mysql ∧
      ∃ out f, (Builder.mk .mysql none false).condition loneDisjunction = .ok out ∧
        out.sql = "\x60a\x60 = :a1 OR \x60b\x60 = :b2 AND \x60c\x60 = :c3" ∧
        Dialect.mysql.read? out.sql = some f ∧ f.atoms.Nodup ∧
        ∃ σ, f.eval σ ≠ loneDisjunction.holds σ
          ((Builder.mk .mysql none false).startFor (.condition loneDisjunction)) := by
  have hcolumn (column : String) (h : IsPlainName column) (v : Value) :
      (Condition.compare column .eq (.value v)).IsReadable .mysql :=
    ⟨isOperand_quoteColumn .mysql h, trivial⟩
  have ha := hcolumn "a" (by simp [IsPlainName, nameMarks]) (.int 1)
  have hb := hcolumn "b" (by simp [IsPlainName, nameMarks]) (.int 2)
  have hc := hcolumn "c" (by simp [IsPlainName, nameMarks]) (.int 3)
  have hreadable : loneDisjunction.IsReadable .mysql :=
    ⟨by simp, ⟨by simp, ⟨by simp, ha, hb, trivial⟩, trivial⟩, hc, trivial⟩
  have hgrouped : ¬loneDisjunction.IsGrouped .mysql := by
    rintro ⟨hopen, -⟩
    exact absurd (hopen (by decide)) (by decide)
  obtain ⟨out, hout, hsql⟩ : ∃ out,
      (Builder.mk .mysql none false).condition loneDisjunction = .ok out ∧
        out.sql = "\x60a\x60 = :a1 OR \x60b\x60 = :b2 AND \x60c\x60 = :c3" := ⟨_, rfl, rfl⟩
  obtain ⟨f, hf, -, hmisread⟩ := condition_read_iff_grouped hreadable hout
  have hnodup : f.atoms.Nodup := by
    rw [hsql] at hf
    obtain rfl := Option.some.inj hf
    decide
  exact ⟨hreadable, hgrouped, out, f, hout, hsql, hf, hnodup, hmisread hgrouped hnodup⟩

end Builder

end SqlCompose
