import Mathlib
import SqlCompose.Proofs.Fragment.Query
import SqlCompose.Proofs.Reading.Lookup

/-!
# Reading conditions that are no groups

What a condition must hold for its text to be read: each column is an operand, and what is taken
over verbatim closes its quotes and parentheses. Each kind of condition that is neither a group nor
verbatim is then a predicate.
-/

namespace SqlCompose

open Fragment Formula

variable {d : Dialect} {q s column : String}

/-! ### Readable conditions -/

/-- An expression has no connective outside parentheses, and in a query all that is opened is
closed. -/
def Operand.IsReadable (d : Dialect) : Operand → Prop
  | .value _ | .list _ => True
  | .query q => IsClosed d (q.fragment d)
  | .expr e => d.IsPlain e.sql

/-- In a query that is looked in, all that is opened is closed. -/
def Members.IsReadable (d : Dialect) : Members → Prop
  | .list _ | .rows _ => True
  | .query q => IsClosed d (q.fragment d)

mutual
/-- Every group has members and every other condition has a text, and what is taken over verbatim
can be read: a column as an operand, and a condition as a formula. -/
def Condition.IsReadable (d : Dialect) : Condition → Prop
  | .hash pairs => pairs ≠ [] ∧ ∀ p ∈ pairs, d.IsOperand (d.quoteColumn p.1) ∧ p.2.IsReadable d
  | .and items | .or items => items ≠ [] ∧ areReadable d items
  | .not item => item.IsReadable d
  | .between column _ _ _ => d.IsOperand (d.quoteColumn column)
  | .within columns members negated =>
    (∀ column ∈ columns, d.IsOperand (d.quoteColumn column)) ∧ members.IsReadable d ∧
      ((Condition.within columns members negated).fragment d).isBlank = false
  | .like op column values rawPattern =>
    d.IsOperand (d.quoteColumn column) ∧
      ((Condition.like op column values rawPattern).fragment d).isBlank = false
  | .exist q _ => IsClosed d (q.fragment d)
  | .compare column _ operand => d.IsOperand (d.quoteColumn column) ∧ operand.IsReadable d
  | .raw sql _ => (d.read? (Text.trim sql)).isSome = true
  | .expr e => (d.read? (Text.trim e.sql)).isSome = true
  | .lookup field _ operand => d.IsOperand (d.quoteColumn field) ∧ operand.IsReadable d

/-- Every member of a group can be read. -/
def areReadable (d : Dialect) : List Condition → Prop
  | [] => True
  | item :: items => item.IsReadable d ∧ areReadable d items
end

lemma areReadable_iff {items : List Condition} : areReadable d items ↔
    ∀ item ∈ items, item.IsReadable d := by
  induction items with
  | nil => simp [areReadable]
  | cons item items ih => rw [areReadable, ih, List.forall_mem_cons]

namespace Fragment

/-! ### Operands on the right -/

/-- A comparison of an operand with a verbatim expression. -/
lemma isPredicate_expr {e : Expression} (hq : d.IsOperand q) (hs : d.checkPlain s = true)
    (hstart : startsApart s = true) (hend : endsApart s = true) (he : d.IsPlain e.sql) :
    IsPredicate d (.text (q ++ s) :: expr e) := by
  apply isPredicate_operand hq hs hstart
  intro b _
  rw [expr, Binding.textOf_supply_cons, Binding.textOf_text_cons, Binding.textOf_nil,
    String.append_empty]
  exact (Dialect.isPlain_of_check hs).append he (.inl hend)

/-- Each pair of a hash is a predicate. -/
lemma isPredicate_hashFragments {pairs : List (String × Operand)}
    (h : ∀ p ∈ pairs, d.IsOperand (d.quoteColumn p.1) ∧ p.2.IsReadable d)
    (herror : ∀ f ∈ hashFragments d pairs, error? f = none) :
    ∀ f ∈ hashFragments d pairs, IsPredicate d f := by
  induction pairs with
  | nil => simp [hashFragments]
  | cons pair pairs ih =>
    obtain ⟨column, operand⟩ := pair
    rw [List.forall_mem_cons] at h
    obtain ⟨⟨hq, hoperand⟩, hpairs⟩ := h
    have hequals : d.checkPlain "=" = true := by cases d <;> rfl
    have hin : d.checkPlain " IN " = true := by cases d <;> rfl
    cases operand with
    | value v =>
      rw [hashFragments, List.forall_mem_cons] at herror ⊢
      refine ⟨?_, ih hpairs herror.2⟩
      split
      · exact isPredicate_null hq false
      · exact isPredicate_slot hq hequals (by decide) (by decide) _ _
    | list values =>
      rw [hashFragments, List.forall_mem_cons] at herror ⊢
      exact ⟨isPredicate_inList hq fun _ => rfl, ih hpairs herror.2⟩
    | query q =>
      rw [hashFragments, List.forall_mem_cons, error?_text_cons, error?_bracket] at herror
      rw [hashFragments, List.forall_mem_cons]
      exact ⟨isPredicate_bracket hq hin (by decide) (by decide) hoperand herror.1,
        ih hpairs herror.2⟩
    | expr e =>
      rw [hashFragments, List.forall_mem_cons] at herror ⊢
      exact ⟨isPredicate_expr hq hequals (by decide) (by decide) hoperand, ih hpairs herror.2⟩

end Fragment

namespace Condition

/-- A membership that can be read is a predicate. -/
lemma isPredicate_within {columns : List String} {members : Members} {negated : Bool}
    (h : (within columns members negated).IsReadable d)
    (herror : error? ((within columns members negated).fragment d) = none) :
    IsPredicate d ((within columns members negated).fragment d) := by
  obtain ⟨hcolumns, hmembers, hblank⟩ := h
  cases members with
  | query q =>
    rw [Condition.fragment] at herror ⊢
    split at herror
    · simp at herror
    · rename_i hempty
      rw [error?_text_cons, error?_bracket] at herror
      rw [if_neg hempty]
      have hq := isOperand_columnTuple (by simpa using hempty) hcolumns
      cases negated with
      | false =>
        exact isPredicate_bracket hq (by cases d <;> rfl) (by decide) (by decide) hmembers herror
      | true =>
        exact isPredicate_bracket hq (by cases d <;> rfl) (by decide) (by decide) hmembers herror
  | list values =>
    cases columns with
    | nil => simp [Condition.fragment] at herror
    | cons column columns =>
      cases columns with
      | nil =>
        rw [Condition.fragment] at hblank ⊢
        apply isPredicate_inList (hcolumns column List.mem_cons_self)
        intro hempty
        rwa [hempty] at hblank
      | cons _ _ => simp [Condition.fragment] at herror
  | rows rows =>
    rw [Condition.fragment] at herror hblank ⊢
    split at herror
    · simp at herror
    · rename_i hempty
      rw [if_neg hempty] at hblank ⊢
      refine isPredicate_inRows rows (by simpa using hempty) hcolumns herror fun hrows => ?_
      rwa [hrows] at hblank

lemma isPredicate_exist {query : Query} {negated : Bool} (h : (exist query negated).IsReadable d)
    (herror : error? ((exist query negated).fragment d) = none) :
    IsPredicate d ((exist query negated).fragment d) := by
  rintro b rfl
  rw [Condition.fragment] at herror ⊢
  rw [error?_text_cons, error?_bracket] at herror
  obtain ⟨is, his⟩ := Option.isSome_iff_exists.mp (h b rfl)
  have hparens := Dialect.items?_parens his
  rw [← Binding.textOf_bracket herror] at hparens
  have hreads {p : Formula} {s : String} {js : List Item}
      (hs : b.dialect.items? s = some js) (hend : endsApart s = true)
      (hconjunction : Formula.Reads
        (js ++ [.group (is.flatMap Item.tokens) (ofGroup? is)]) [p]) :
      b.Reads (.text s :: bracket (query.fragment b.dialect)) [p] :=
    ⟨_, Dialect.items?_append hs hparens (.inl hend), hconjunction⟩
  cases negated with
  | false =>
    have hexists : b.dialect.items? "EXISTS " = some [.token (.word "EXISTS".toList)] := by
      cases b.dialect <;> rfl
    exact ⟨_, hreads hexists (by decide) (reads_of_conjunction rfl (by simp [Item.isKeyword]) rfl)⟩
  | true =>
    have hexists : b.dialect.items? "NOT EXISTS " =
        some [.token (.word "NOT".toList), .token (.word "EXISTS".toList)] := by
      cases b.dialect <;> rfl
    exact ⟨_, hreads hexists (by decide) (reads_of_conjunction rfl (by simp [Item.isKeyword]) rfl)⟩

lemma isPredicate_compare {op : CompareOp} {operand : Operand}
    (h : (compare column op operand).IsReadable d)
    (herror : error? ((compare column op operand).fragment d) = none) :
    IsPredicate d ((compare column op operand).fragment d) := by
  obtain ⟨hq, hoperand⟩ := h
  have hassoc : d.quoteColumn column ++ " " ++ op.token ++ " " =
      d.quoteColumn column ++ (" " ++ op.token ++ " ") := by
    simp only [String.append_assoc]
  have htoken : d.checkPlain (" " ++ op.token ++ " ") = true := by
    cases d <;> cases op <;> rfl
  have hstart : startsApart (" " ++ op.token ++ " ") = true := by cases op <;> rfl
  have hend : endsApart (" " ++ op.token ++ " ") = true := by cases op <;> rfl
  cases operand with
  | value v =>
    rw [Condition.fragment, hassoc]
    split
    · rw [String.append_assoc]
      exact isPredicate_text hq (by cases d <;> cases op <;> rfl) (by cases op <;> rfl)
    · exact isPredicate_slot hq htoken hstart hend column v
  | query q =>
    rw [Condition.fragment, error?_text_cons, error?_bracket] at herror
    rw [Condition.fragment, hassoc]
    exact isPredicate_bracket hq htoken hstart hend hoperand herror
  | expr e =>
    rw [Condition.fragment, hassoc]
    exact isPredicate_expr hq htoken hstart hend hoperand
  | list => simp [Condition.fragment] at herror

/-- A lookup that can be read is a predicate. -/
lemma isPredicate_lookup {field : String} {lookup : Lookup} {operand : Operand}
    (h : (Condition.lookup field lookup operand).IsReadable d)
    (herror : error? ((Condition.lookup field lookup operand).fragment d) = none) :
    IsPredicate d ((Condition.lookup field lookup operand).fragment d) := by
  obtain ⟨hq, hoperand⟩ := h
  by_cases hquery : ∃ q, lookup = .within ∧ operand = .query q
  · obtain ⟨q, rfl, rfl⟩ := hquery
    rw [Condition.fragment, error?_text_cons, error?_bracket] at herror
    rw [Condition.fragment]
    exact isPredicate_bracket hq (by cases d <;> rfl) (by decide) (by decide) hoperand herror
  · have hlookup : ∀ q, lookup = .within → operand ≠ .query q := by
      rintro q rfl rfl
      exact hquery ⟨q, rfl, rfl⟩
    rw [fragment_lookup hlookup] at herror ⊢
    exact Fragment.isPredicate_lookup hq herror

end Condition

end SqlCompose
