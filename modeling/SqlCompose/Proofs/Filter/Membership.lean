import Mathlib
import SqlCompose.Proofs.Filter.Kept
import SqlCompose.Proofs.Filter.Selection
import SqlCompose.Proofs.Reading.Meaning

/-!
# What a condition on lists selects

Nothing is a member of the empty list, so a row is never selected by a list without members and
always by its negation. The first is written as a comparison that is never true, the second is not
written. What is left of a condition is then read as what is left of its selection.
-/

namespace SqlCompose

open Fragment Formula

/-! ### What a condition selects -/

/-- What a condition selects that is no group. -/
def Condition.asked (b : Binding) (c : Condition) : Selection :=
  match c.emptyList? with
  | some true => .everything
  | some false => .nothing
  | none => .predicate ((b.dialect.read? (b.textOf (c.fragment b.dialect))).getD (.atom []))

mutual
/-- What a condition selects that is written from a binding. -/
def Condition.selection (b : Binding) : Condition → Selection
  | .and items => .join .and (memberSelections b items)
  | .or items => .join .or (memberSelections b items)
  | .not item => .not (item.selection b)
  | c => c.asked b

def memberSelections (b : Binding) : List Condition → List Selection
  | [] => []
  | item :: items => item.selection b :: memberSelections (b.after (item.fragment b.dialect)) items
end

mutual
/-- Groups with members, and negations, of lists in which columns are looked for. -/
def Condition.IsMembership (d : Dialect) : Condition → Prop
  | .and items | .or items => items ≠ [] ∧ areMemberships d items
  | .not item => item.IsMembership d
  | .within columns (.list _) _ | .within columns (.rows _) _ =>
    ∀ column ∈ columns, d.IsOperand (d.quoteColumn column)
  | .like _ column _ _ => d.IsOperand (d.quoteColumn column)
  | _ => False

def areMemberships (d : Dialect) : List Condition → Prop
  | [] => True
  | item :: items => item.IsMembership d ∧ areMemberships d items
end

/-! ### What is left can be read -/

/-- The comparison that is never true. -/
def falsity : List Token := [.word ['1'], .symbol '=', .word ['0']]

variable {b : Binding} {d : Dialect} {τ : List Token → Truth}

lemma Fragment.IsPredicate.isBlank_eq_false {f : Fragment} (h : IsPredicate d f) :
    f.isBlank = false := by
  obtain ⟨p, hp⟩ := h (.start d false) rfl
  exact hp.isBlank_eq_false

namespace Condition

/-- A list in which columns are looked for is a predicate and can be read, unless it has no text. -/
lemma isPredicate_within_list {columns : List String} {members : Members} {negated : Bool}
    (hc : (within columns members negated).IsMembership d)
    (herror : error? ((within columns members negated).fragment d) = none)
    (hne : (within columns members negated).emptyList? ≠ some true) :
    IsPredicate d ((within columns members negated).fragment d) ∧
      (within columns members negated).IsReadable d := by
  cases members with
  | query q => exact hc.elim
  | list values =>
    match columns with
    | [] => simp [Condition.fragment] at herror
    | [column] =>
      have hpredicate : IsPredicate d ((within [column] (.list values) negated).fragment d) := by
        rw [Condition.fragment]
        refine isPredicate_inList (hc column List.mem_cons_self) fun hvalues => ?_
        subst hvalues
        cases negated with
        | false => rfl
        | true => exact absurd rfl hne
      exact ⟨hpredicate, hc, trivial, hpredicate.isBlank_eq_false⟩
    | _ :: _ :: _ => simp [Condition.fragment] at herror
  | rows rows =>
    cases columns with
    | nil => simp [Condition.fragment] at herror
    | cons column columns =>
      have hpredicate : IsPredicate d
          ((within (column :: columns) (.rows rows) negated).fragment d) := by
        have hcolumns : (column :: columns).isEmpty = false := rfl
        rw [Condition.fragment, hcolumns, if_neg (by decide)] at herror ⊢
        refine isPredicate_inRows rows (by simp) hc herror fun hrows => ?_
        subst hrows
        cases negated with
        | false => rfl
        | true => exact absurd (by cases columns <;> rfl) hne
      exact ⟨hpredicate, hc, trivial, hpredicate.isBlank_eq_false⟩

/-- A column that is compared with patterns is a predicate, and can be read, unless it has no
text. -/
lemma isPredicate_like_list {op : LikeOp} {column : String} {values : List Value}
    {rawPattern : Bool} (hc : (like op column values rawPattern).IsMembership d)
    (herror : error? ((like op column values rawPattern).fragment d) = none)
    (hne : (like op column values rawPattern).emptyList? ≠ some true) :
    IsPredicate d ((like op column values rawPattern).fragment d) ∧
      (like op column values rawPattern).IsReadable d := by
  have hpredicate : IsPredicate d ((like op column values rawPattern).fragment d) := by
    rw [Condition.fragment] at herror ⊢
    refine isPredicate_like hc op values rawPattern herror fun hvalues => ?_
    subst hvalues
    cases hnegated : op.isNegated with
    | false => rfl
    | true => exact absurd (congrArg some hnegated) hne
  exact ⟨hpredicate, hc, hpredicate.isBlank_eq_false⟩

lemma isReadable_kept_of_leaf {c : Condition}
    (hkept : c.kept = if c.emptyList? = some true then none else some c)
    (h : c.emptyList? ≠ some true → c.IsReadable d) : ∀ k ∈ c.kept, k.IsReadable d := by
  intro k hk
  rw [hkept] at hk
  split at hk
  · simp at hk
  · rename_i hne
    obtain rfl := Option.some.inj hk
    exact h hne

end Condition

lemma isReadable_of_mem_groupOf? {mk : List Condition → Condition} {items : List Condition}
    {k : Condition} (hk : k ∈ groupOf? mk items)
    (h : items ≠ [] → (mk items).IsReadable d) : k.IsReadable d := by
  unfold groupOf? at hk
  split at hk
  · simp at hk
  · rename_i hne
    obtain rfl := Option.some.inj hk
    exact h (by simpa using hne)

mutual
/-- What is left of a condition can be read. -/
theorem Condition.isReadable_kept {d : Dialect} (c : Condition) (hc : c.IsMembership d)
    (herror : error? (c.fragment d) = none) : ∀ k ∈ c.kept, k.IsReadable d := by
  match c with
  | .and items =>
    intro k hk
    rw [Condition.fragment, error?_group] at herror
    exact isReadable_of_mem_groupOf? hk fun hne => ⟨hne, areReadable_kept items hc.2 herror⟩
  | .or items =>
    intro k hk
    rw [Condition.fragment, error?_group] at herror
    exact isReadable_of_mem_groupOf? hk fun hne => ⟨hne, areReadable_kept items hc.2 herror⟩
  | .not item =>
    intro k hk
    obtain ⟨k', hk', rfl⟩ := Option.map_eq_some_iff.mp hk
    exact item.isReadable_kept hc (Condition.error?_not herror) k' hk'
  | .within .. =>
    exact Condition.isReadable_kept_of_leaf rfl fun hne =>
      (Condition.isPredicate_within_list hc herror hne).2
  | .like .. =>
    exact Condition.isReadable_kept_of_leaf rfl fun hne =>
      (Condition.isPredicate_like_list hc herror hne).2
  | .hash _ | .between .. | .exist .. | .compare .. | .raw .. | .expr _ | .lookup .. =>
    exact hc.elim

/-- What is left of the members of a group can be read. -/
theorem areReadable_kept {d : Dialect} {conjunction : Bool} (items : List Condition)
    (hitems : areMemberships d items)
    (herror : ∀ m ∈ memberFragments d conjunction items, error? m.2 = none) :
    areReadable d (keptMembers items) := by
  match items with
  | [] => trivial
  | item :: items =>
    rw [memberFragments, List.forall_mem_cons] at herror
    have hitem := item.isReadable_kept hitems.1 herror.1
    have hrest := areReadable_kept items hitems.2 herror.2
    rw [keptMembers]
    cases hkept : item.kept with
    | none => exact hrest
    | some k => exact ⟨hitem k hkept, hrest⟩
end

/-! ### What is left means what is left of the selection -/

namespace Dialect

lemma parts_falsity (d : Dialect) : d.parts "1=0" = [.atom falsity] := by
  cases d <;> rfl

end Dialect

lemma Fragment.IsPredicate.exists_read? {f : Fragment} (h : IsPredicate b.dialect f) :
    ∃ p, b.dialect.read? (b.textOf f) = some p := by
  obtain ⟨q, is, his, hreads⟩ := h b rfl
  obtain ⟨p, hp, -⟩ := hreads.exists_ofItems?
  exact ⟨p, by rw [Dialect.read?, his]; exact hp⟩

namespace Condition

/-- Where the comparison that is never true fails, what is left of a leaf means what it selects. -/
lemma value_kept_of_leaf (hτ : τ falsity = .no) {c : Condition}
    (hkept : c.kept = if c.emptyList? = some true then none else some c)
    (hspelling : c.spelling b = b.phrase (c.fragment b.dialect))
    (hselection : c.selection b = c.asked b)
    (h : c.emptyList? ≠ some true → IsPredicate b.dialect (c.fragment b.dialect)) :
    c.kept.map (fun k => (k.spelling b).value τ) =
      (c.selection b).kept.map (Selection.truth τ) := by
  rw [hkept, hselection, asked]
  cases hempty : c.emptyList? with
  | none =>
    obtain ⟨p, hp⟩ := (h (by simp [hempty])).exists_read?
    rw [hp, if_neg (by simp)]
    dsimp only
    rw [Selection.kept, Option.map_some, Option.map_some, hspelling, Binding.phrase,
      Spelling.value, Dialect.any_value_parts, hp]
    rfl
  | some negated =>
    cases negated with
    | true => rfl
    | false =>
      have hfragment := fragment_emptyList (d := b.dialect) hempty
      have htext : b.textOf (ofEmptyList false) = "1=0" := rfl
      rw [if_neg (by simp)]
      dsimp only
      rw [Selection.kept, Option.map_some, Option.map_some, hspelling, hfragment, Binding.phrase,
        htext, Dialect.parts_falsity, Spelling.value]
      simp [Formula.value, hτ, Selection.truth]

end Condition

/-- What is left of a group is meant as its members are. -/
lemma value_groupOf? {mk : List Condition → Condition} {op : Truth → Truth → Truth} {e : Truth}
    {connective : Selection → Selection → Selection}
    (hconnective : Selection.IsConnective connective op e) {ks : List Condition}
    {spellings : List Spelling} {ss : List Selection} (hlength : spellings.length = ks.length)
    (hspelling : spellings ≠ [] →
      ((mk ks).spelling b).value τ = (spellings.map (Spelling.value τ)).foldr op e)
    (hvalues : spellings.map (Spelling.value τ) = ss.map (Selection.truth τ)) :
    (groupOf? mk ks).map (fun k => (k.spelling b).value τ) =
      (if ss.isEmpty then none else some (Selection.join connective ss)).map
        (Selection.truth τ) := by
  cases ss with
  | nil =>
    obtain rfl : spellings = [] := List.map_eq_nil_iff.mp hvalues
    obtain rfl : ks = [] := List.length_eq_zero_iff.mp hlength.symm
    rfl
  | cons s ss =>
    have hne : spellings ≠ [] := by
      rintro rfl
      simp at hvalues
    obtain ⟨k, ks, rfl⟩ : ∃ k ks', ks = k :: ks' := by
      refine List.exists_cons_of_ne_nil fun hks => hne ?_
      rw [hks] at hlength
      exact List.length_eq_zero_iff.mp hlength
    have htruth := Selection.truth_join hconnective (List.cons_ne_nil s ss) τ
    rw [← hvalues, ← hspelling hne] at htruth
    exact congrArg some htruth.symm

lemma memberSelections_ne_nil {items : List Condition} (h : items ≠ []) :
    memberSelections b items ≠ [] := by
  obtain ⟨item, items, rfl⟩ := List.exists_cons_of_ne_nil h
  simp [memberSelections]

mutual
/-- What is left of a condition is meant for the rows that what is left of its selection selects. -/
theorem Condition.value_kept {b : Binding} {τ : List Token → Truth} (hτ : τ falsity = .no)
    (c : Condition) (hc : c.IsMembership b.dialect)
    (herror : error? (c.fragment b.dialect) = none) :
    c.kept.map (fun k => (k.spelling b).value τ) =
      (c.selection b).kept.map (Selection.truth τ) := by
  match c with
  | .and items =>
    rw [Condition.fragment, error?_group] at herror
    rw [Condition.kept, Condition.selection,
      Selection.kept_join Selection.isConnective_and (memberSelections_ne_nil hc.1)]
    let alone := decide ((keptMembers items).length ≤ 1)
    exact value_groupOf? Selection.isConnective_and (length_memberSpellings true alone b _)
      Spelling.value_join_and (value_keptMembers hτ items hc.2 herror)
  | .or items =>
    rw [Condition.fragment, error?_group] at herror
    rw [Condition.kept, Condition.selection,
      Selection.kept_join Selection.isConnective_or (memberSelections_ne_nil hc.1)]
    let alone := decide ((keptMembers items).length ≤ 1)
    exact value_groupOf? Selection.isConnective_or (length_memberSpellings false alone b _)
      (fun _ => Spelling.value_join_or _) (value_keptMembers hτ items hc.2 herror)
  | .not item =>
    have hitem := item.value_kept hτ hc (Condition.error?_not herror)
    rw [Condition.kept, Condition.selection, Selection.kept, Option.map_map, Option.map_map]
    have hnot := congrArg (Option.map Truth.not) hitem
    rwa [Option.map_map, Option.map_map] at hnot
  | .within .. =>
    exact Condition.value_kept_of_leaf hτ rfl rfl rfl fun hne =>
      (Condition.isPredicate_within_list hc herror hne).1
  | .like .. =>
    exact Condition.value_kept_of_leaf hτ rfl rfl rfl fun hne =>
      (Condition.isPredicate_like_list hc herror hne).1
  | .hash _ | .between .. | .exist .. | .compare .. | .raw .. | .expr _ | .lookup .. =>
    exact hc.elim

/-- What is left of the members of a group means what they select. -/
theorem value_keptMembers {b : Binding} {τ : List Token → Truth} (hτ : τ falsity = .no)
    {conjunction alone : Bool} (items : List Condition) (hitems : areMemberships b.dialect items)
    (herror : ∀ m ∈ memberFragments b.dialect conjunction items, error? m.2 = none) :
    (memberSpellings conjunction alone b (keptMembers items)).map (Spelling.value τ) =
      ((memberSelections b items).filterMap Selection.kept).map (Selection.truth τ) := by
  match items with
  | [] => rfl
  | item :: items =>
    rw [memberFragments, List.forall_mem_cons] at herror
    have hitem := item.value_kept hτ hitems.1 herror.1
    have hdialect : (b.after (item.fragment b.dialect)).dialect = b.dialect := Binding.after_dialect
    have hrest :
        (memberSpellings conjunction alone (b.after (item.fragment b.dialect))
            (keptMembers items)).map (Spelling.value τ) =
          ((memberSelections (b.after (item.fragment b.dialect)) items).filterMap
            Selection.kept).map (Selection.truth τ) :=
      value_keptMembers hτ items (by rw [hdialect]; exact hitems.2)
        (by rw [hdialect]; exact herror.2)
    have hfragment := (item.fragment_kept b.dialect).1
    rw [keptMembers, memberSelections, List.filterMap_cons]
    cases hkept : item.kept with
    | none =>
      rw [hkept] at hitem hfragment
      -- what is left out binds nothing
      have hafter : b.after (item.fragment b.dialect) = b := by
        rw [← hfragment]
        rfl
      rw [hafter] at hrest ⊢
      rw [Option.map_eq_none_iff.mp hitem.symm]
      exact hrest
    | some k =>
      rw [hkept] at hitem hfragment
      obtain ⟨s, hs, htruth⟩ := Option.map_eq_some_iff.mp hitem.symm
      have hk : k.fragment b.dialect = item.fragment b.dialect := hfragment
      have hvalue (brackets : Bool) :
          (if brackets then Spelling.parens (k.spelling b) else k.spelling b).value τ =
            (k.spelling b).value τ := by
        cases brackets <;> rfl
      rw [hs, Option.toList_some, List.singleton_append, memberSpellings, List.map_cons, hvalue,
        hk]
      exact congrArg₂ List.cons htruth.symm hrest
end

end SqlCompose
