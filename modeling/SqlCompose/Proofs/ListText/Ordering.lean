import Mathlib
import SqlCompose.Proofs.Json.Grammar
import SqlCompose.Proofs.ListText.Part

/-!
# Orderings written as text

An ordering is written as a list of expressions, each followed by its direction. A direction in any
letter case is found behind its expression, whatever words and blanks the expression has, unless the
expression has a line feed. Then nothing is split off, and the whole part is taken for a column in
ascending order.
-/

namespace SqlCompose

/-! ### Keywords -/

namespace Text

/-- Without a long s, letters are compared as basic Latin letters are. -/
lemma map_foldChar_eq {s t : List Char} (h : s.map Char.toLower = t) (ht : 'ſ' ∉ t) :
    s.map foldChar = t := by
  subst h
  apply List.map_congr_left
  intro c hc
  have hmem : c.toLower ∈ s.map Char.toLower := List.mem_map_of_mem hc
  unfold foldChar
  split_ifs with hs
  · subst hs
    exact absurd hmem ht
  · rfl

end Text

/-! ### Items -/

/-- An expression with its direction, and a spelling of the direction. -/
structure OrderText where
  expr : String
  direction : Direction
  keyword : String

namespace OrderText

variable {o o' : OrderText} {items : List OrderText}

/-- The expression is a part of a list, and the keyword is that of the direction in any letter
case. -/
structure IsWritten (o : OrderText) : Prop where
  part : ListText.IsPart o.expr.toList
  keyword : Text.equalsIgnoringCase o.keyword o.direction.sql = true

def text (o : OrderText) : String := o.expr ++ " " ++ o.keyword

def list (items : List OrderText) : String := Text.join ", " (items.map text)

def item (o : OrderText) : OrderItem := .column o.expr o.direction

/-- What the text of an item is read as. -/
def reading (o : OrderText) : String × Direction :=
  if '\n' ∈ o.expr.toList then (o.text, .asc) else (o.expr, o.direction)

lemma toList_text (o : OrderText) :
    o.text.toList = o.expr.toList ++ ' ' :: o.keyword.toList := by
  simp [text]

/-- The keyword of an item in small letters. -/
lemma IsWritten.map_toLower_keyword (h : o.IsWritten) :
    o.keyword.toList.map Char.toLower =
      match o.direction with
      | .asc => ['a', 's', 'c']
      | .desc => ['d', 'e', 's', 'c'] := by
  have hkeyword := beq_iff_eq.mp h.keyword
  have hlower := congrArg String.toList hkeyword
  rw [Text.toLower, String.toList_ofList] at hlower
  rw [hlower]
  cases o.direction <;> decide

lemma IsWritten.toLower_mem (h : o.IsWritten) {c : Char} (hc : c ∈ o.keyword.toList) :
    c.toLower ∈ ['a', 's', 'c', 'd', 'e'] := by
  have hmem : c.toLower ∈ o.keyword.toList.map Char.toLower := List.mem_map_of_mem hc
  have hletters (d : Direction) : (match d with
      | .asc => ['a', 's', 'c']
      | .desc => ['d', 'e', 's', 'c']) ⊆ ['a', 's', 'c', 'd', 'e'] := by
    cases d <;> simp
  rw [h.map_toLower_keyword] at hmem
  exact hletters _ hmem

/-- A keyword is a word whatever the letter case. -/
lemma IsWritten.isWord_keyword (h : o.IsWritten) : ListText.IsWord o.keyword.toList where
  ne_nil hnil := by
    have hlower := h.map_toLower_keyword
    rw [hnil] at hlower
    cases hdirection : o.direction <;> simp [hdirection] at hlower
  noBlank c hc := by
    have hblank : ['a', 's', 'c', 'd', 'e'].all (!isBlank ·) = true := by decide
    have hlower := List.all_eq_true.mp hblank _ (h.toLower_mem hc)
    exact (isBlank_toLower c).symm.trans (by simpa using hlower)
  noMark c hc hmem := by
    have hmarks : ['(', ')', ','].all (·.toLower ∉ ['a', 's', 'c', 'd', 'e']) = true := by decide
    exact of_decide_eq_true (List.all_eq_true.mp hmarks c hmem) (h.toLower_mem hc)

/-- The direction is the last word of an item. -/
lemma IsWritten.splitLastWord?_text (h : o.IsWritten) :
    ListText.splitLastWord? o.text.toList = some (o.expr.toList, o.keyword.toList) := by
  rw [toList_text]
  exact h.part.splitLastWord?_append h.isWord_keyword

/-- An item is a part of a list as its expression is. -/
lemma IsWritten.isPart_text (h : o.IsWritten) : ListText.IsPart o.text.toList := by
  rw [toList_text]
  exact h.part.append_word h.isWord_keyword

/-! ### Reading an item -/

/-- The direction of an item is split off unless its expression has a line feed. -/
lemma IsWritten.direction?_text (h : o.IsWritten) :
    ListText.direction? o.text.toList =
      if '\n' ∈ o.expr.toList then none
      else some (o.expr.toList, decide (o.direction = .desc)) := by
  have hlower := h.map_toLower_keyword
  have hfold : o.keyword.toList.map Text.foldChar = _ := Text.map_foldChar_eq hlower (by
    cases o.direction <;> decide)
  have hkeyword : (Text.isKeyword "asc" o.keyword.toList || Text.isKeyword "desc" o.keyword.toList)
      = true := by
    rw [Text.isKeyword, Text.isKeyword, hfold]
    cases o.direction <;> rfl
  have hdescending : Text.equalsIgnoringCase (.ofList o.keyword.toList) "desc" =
      decide (o.direction = .desc) := by
    rw [Text.equalsIgnoringCase, Text.toLower, String.toList_ofList, hlower]
    cases o.direction <;> decide
  simp only [ListText.direction?, h.splitLastWord?_text, hkeyword, hdescending]
  by_cases hline : '\n' ∈ o.expr.toList <;> simp [hline]

/-- An item that is written as it should be orders by its column, in its direction. -/
lemma IsWritten.orderBy_orderByPart (h : o.IsWritten) (q : Query) :
    (q.orderByPart o.text).orderBy = OrderItem.set o.reading.1 o.reading.2 q.orderBy := by
  rw [Query.orderByPart, h.direction?_text, reading]
  by_cases hline : '\n' ∈ o.expr.toList
  · have htrim : Text.trim o.text = o.text := by
      rw [Text.trim, h.isPart_text.trimmed, String.ofList_toList]
    rw [if_pos hline, if_pos hline]
    exact congrArg (OrderItem.set · Direction.asc q.orderBy) htrim
  · have htrim : Text.trim (.ofList o.expr.toList) = o.expr := by
      rw [Text.trim, String.toList_ofList, h.part.trimmed, String.ofList_toList]
    rw [if_neg hline, if_neg hline]
    simp only [Query.orderByColumn, htrim]
    cases o.direction <;> rfl

/-! ### Reading a list -/

/-- The items of a list are entered one after the other. -/
lemma orderBy_foldl_orderByPart (h : ∀ o ∈ items, o.IsWritten) (q : Query) :
    ((items.map text).foldl Query.orderByPart q).orderBy =
      items.foldl (fun entries o => OrderItem.set o.reading.1 o.reading.2 entries) q.orderBy := by
  induction items generalizing q with
  | nil => rfl
  | cons o items ih =>
    rw [List.forall_mem_cons] at h
    rw [List.map_cons, List.foldl_cons, List.foldl_cons, ih h.2, h.1.orderBy_orderByPart]

/-- Items with different expressions are read as different columns. -/
lemma IsWritten.expr_eq_of_reading_eq (h : o.IsWritten) (h' : o'.IsWritten)
    (heq : o.reading.1 = o'.reading.1) : o.expr = o'.expr := by
  have hline (o : OrderText) : '\n' ∈ o.reading.1.toList ↔ '\n' ∈ o.expr.toList := by
    unfold reading
    split_ifs with hexpr <;> simp [hexpr, toList_text]
  have hsame : '\n' ∈ o.expr.toList ↔ '\n' ∈ o'.expr.toList := by rw [← hline, heq, hline]
  by_cases hexpr : '\n' ∈ o.expr.toList
  · rw [reading, reading, if_pos hexpr, if_pos (hsame.mp hexpr)] at heq
    have hwords := congrArg (ListText.splitLastWord? ∘ String.toList) heq
    simp only [Function.comp_apply, h.splitLastWord?_text, h'.splitLastWord?_text,
      Option.some.injEq, Prod.mk.injEq, String.toList_inj] at hwords
    exact hwords.1
  · rwa [reading, reading, if_neg hexpr, if_neg (mt hsame.mpr hexpr)] at heq

end OrderText

namespace OrderItem

/-- A column that an ordering does not have goes to the end. -/
lemma set_of_forall_ne {name : String} {direction : Direction} {entries : List OrderItem}
    (h : ∀ old, .column name old ∉ entries) :
    set name direction entries = entries ++ [.column name direction] := by
  induction entries with
  | nil => rfl
  | cons entry entries ih =>
    have htail : ∀ old, .column name old ∉ entries := fun old hmem =>
      h old (List.mem_cons_of_mem _ hmem)
    cases entry with
    | column other old =>
      have hother : other ≠ name := by
        rintro rfl
        exact h old List.mem_cons_self
      rw [set, if_neg hother, ih htail]
      rfl
    | expr e => exact congrArg (OrderItem.expr e :: ·) (ih htail)
    | random => exact congrArg (OrderItem.random :: ·) (ih htail)

/-- Columns that are all different become the entries of an ordering, in order. -/
lemma foldl_set {α : Type} (f : α → String × Direction) {as : List α}
    (h : (as.map fun a => (f a).1).Nodup) :
    as.foldl (fun entries a => set (f a).1 (f a).2 entries) [] =
      as.map fun a => .column (f a).1 (f a).2 := by
  induction as using List.reverseRecOn with
  | nil => rfl
  | append_singleton as a ih =>
    rw [List.map_append, List.map_singleton, List.nodup_append] at h
    rw [List.foldl_append, ih h.1, List.foldl_cons, List.foldl_nil, set_of_forall_ne,
      List.map_append, List.map_singleton]
    intro old hmem
    obtain ⟨b, hb, hentry⟩ := List.mem_map.mp hmem
    exact h.2.2 _ (List.mem_map_of_mem hb) _ List.mem_cons_self (OrderItem.column.inj hentry).1

end OrderItem

namespace OrderText

variable {items : List OrderText}

/-- Different expressions are read as different columns. -/
lemma nodup_reading (h : ∀ o ∈ items, o.IsWritten) (hnodup : (items.map (·.expr)).Nodup) :
    (items.map fun o => o.reading.1).Nodup := by
  have hpairs := List.pairwise_map.mp hnodup
  apply List.pairwise_map.mpr
  exact hpairs.imp_of_mem fun ho ho' hne heq => hne ((h _ ho).expr_eq_of_reading_eq (h _ ho') heq)

/-- An item is read as it was meant exactly if its expression has no line feed. -/
lemma column_reading_eq_item_iff (o : OrderText) :
    OrderItem.column o.reading.1 o.reading.2 = o.item ↔ '\n' ∉ o.expr.toList := by
  rw [reading, item]
  by_cases hexpr : '\n' ∈ o.expr.toList
  · rw [if_pos hexpr]
    refine iff_of_false (fun heq => ?_) (not_not_intro hexpr)
    have hlength := congrArg (List.length ∘ String.toList) (OrderItem.column.inj heq).1
    simp [toList_text] at hlength
  · rw [if_neg hexpr]
    exact iff_of_true rfl hexpr

/-- The text of an ordering by different expressions is read as an ordering with one entry for each
item, in order. It is the ordering that was meant exactly if no expression has a line feed. -/
theorem orderBy_orderByText_iff (q : Query) {items : List OrderText}
    (h : ∀ o ∈ items, o.IsWritten) (hnodup : (items.map (·.expr)).Nodup) :
    (q.orderByText (list items)).orderBy = items.map (fun o => .column o.reading.1 o.reading.2) ∧
    ((q.orderByText (list items)).orderBy = items.map item ↔
      ∀ o ∈ items, '\n' ∉ o.expr.toList) := by
  have hparts : ListText.parts (list items) = items.map text := by
    apply ListText.parts_join
    simpa using fun o ho => (h o ho).isPart_text
  have hread : (q.orderByText (list items)).orderBy =
      items.map (fun o => .column o.reading.1 o.reading.2) := by
    rw [Query.orderByText, Query.addOrderBy, hparts, orderBy_foldl_orderByPart h]
    exact OrderItem.foldl_set reading (nodup_reading h hnodup)
  refine ⟨hread, ?_⟩
  rw [hread, List.map_inj_left]
  exact forall₂_congr fun o _ => o.column_reading_eq_item_iff

/-- The direction behind an expression on two lines becomes a part of the expression. -/
theorem orderBy_orderByText_iff_twoLines :
    let items : List OrderText := [⟨"f(a, desc)", .asc, "aSc"⟩, ⟨"a +\nb", .desc, "DESC"⟩]
    (∀ o ∈ items, o.IsWritten) ∧ (items.map (·.expr)).Nodup ∧
    list items = "f(a, desc) aSc, a +\nb DESC" ∧
    (Query.empty.orderByText (list items)).orderBy =
      [.column "f(a, desc)" .asc, .column "a +\nb DESC" .asc] ∧
    (Query.empty.orderByText (list items)).orderBy ≠ items.map item := by
  intro items
  have harguments : ListText.IsClosed true "a, desc".toList :=
    (ListText.isClosed_of_all (s := ['a']) (by decide)).append
      (.char (by decide) (by decide) (fun _ => rfl) (ListText.isClosed_of_all (by decide)))
  have hcall : ListText.IsPart "f(a, desc)".toList :=
    ⟨by decide, by decide,
      (ListText.isClosed_of_all (s := ['f']) (by decide)).append (.parens harguments .nil)⟩
  have hlines : ListText.IsPart "a +\nb".toList :=
    ⟨by decide, by decide, ListText.isClosed_of_all (by decide)⟩
  have hwritten : ∀ o ∈ items, o.IsWritten := by
    simpa [items] using And.intro (IsWritten.mk hcall (by decide)) (IsWritten.mk hlines (by decide))
  have hnodup : (items.map (·.expr)).Nodup := by decide
  obtain ⟨hread, hiff⟩ := orderBy_orderByText_iff Query.empty hwritten hnodup
  refine ⟨hwritten, hnodup, by decide, hread, fun hmeant => ?_⟩
  exact hiff.mp hmeant ⟨"a +\nb", .desc, "DESC"⟩ (by simp [items]) (by decide)

end OrderText

end SqlCompose
