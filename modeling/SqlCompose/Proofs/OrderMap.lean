import Mathlib
import SqlCompose.Proofs.ListText.Ordering

/-!
# Orderings as maps

An ordering is built by calls that mention columns, expressions and the random order. Whatever the
calls, a column is one entry: it stands where it was mentioned first and has the direction that it
was mentioned with last. Expressions and random orders are entries wherever they are mentioned. A
call that replaces the ordering drops what was mentioned before.
-/

namespace SqlCompose

/-! ### Calls and mentions -/

/-- A call that extends or replaces the ordering of a query. -/
inductive OrderCall
  | column (name : String) (direction : Direction)
  | replace (text : String)
  | add (text : String)
  | expr (e : Expression)
  | random

def Query.order (q : Query) : OrderCall → Query
  | .column name direction => q.orderByColumn name direction
  | .replace text => q.orderByText text
  | .add text => q.addOrderBy text
  | .expr e => q.orderByExpr e
  | .random => q.orderByRandom

namespace OrderItem

/-- What a part of a list mentions. -/
def ofPart (part : String) : OrderItem :=
  match ListText.direction? part.toList with
  | some (before, descending) =>
    .column (Text.trim (.ofList before)) (if descending then .desc else .asc)
  | none => .column (Text.trim part) .asc

def column? : OrderItem → Option String
  | column name _ => some name
  | _ => none

def columns (entries : List OrderItem) : List String := entries.filterMap column?

def directionOf? (name : String) : OrderItem → Option Direction
  | .column other direction => if other = name then some direction else none
  | _ => none

/-- All mentions but those of a column that was mentioned before. -/
def firsts : List OrderItem → List OrderItem
  | [] => []
  | .column name direction :: mentions =>
    .column name direction :: (firsts mentions).filter (·.column? ≠ some name)
  | item :: mentions => item :: firsts mentions

/-- A column with the direction of its last mention. -/
def latest (mentions : List OrderItem) : OrderItem → OrderItem
  | .column name direction =>
    .column name ((mentions.filterMap (directionOf? name)).getLastD direction)
  | item => item

end OrderItem

namespace OrderCall

/-- What a call mentions, in order. -/
def mentions : OrderCall → List OrderItem
  | .column name direction => [.column (Text.trim name) direction]
  | .replace text | .add text => (ListText.parts text).map .ofPart
  | .expr e => [.expr e]
  | .random => [.random]

/-- Whether a call drops the ordering that it finds. -/
def replaces : OrderCall → Bool
  | .replace _ => true
  | _ => false

/-- The calls from the last one that replaces the ordering, or all calls if there is none. -/
def current : List OrderCall → List OrderCall
  | [] => []
  | call :: calls => if calls.any replaces then current calls else call :: calls

end OrderCall

/-! ### One mention -/

namespace OrderItem

variable {entries mentions : List OrderItem} {item : OrderItem} {name : String}
  {direction : Direction}

@[simp] lemma columns_column_cons (name : String) (direction : Direction)
    (entries : List OrderItem) :
    columns (.column name direction :: entries) = name :: columns entries := rfl

@[simp] lemma columns_expr_cons (e : Expression) (entries : List OrderItem) :
    columns (.expr e :: entries) = columns entries := rfl

@[simp] lemma columns_random_cons (entries : List OrderItem) :
    columns (.random :: entries) = columns entries := rfl

lemma mem_columns : name ∈ columns entries ↔ ∃ item ∈ entries, item.column? = some name :=
  List.mem_filterMap

/-- Enter a mention into an ordering. -/
def enter (entries : List OrderItem) : OrderItem → List OrderItem
  | .column name direction => set name direction entries
  | item => entries ++ [item]

/-- Give an entry the direction of a mention of the same column. -/
def redirect : OrderItem → OrderItem → OrderItem
  | .column name direction, .column other old =>
    .column other (if other = name then direction else old)
  | _, entry => entry

/-- A mention changes no entry but that of its own column. -/
lemma redirect_of_ne {entry : OrderItem}
    (h : ∀ name, item.column? = some name → entry.column? ≠ some name) :
    redirect item entry = entry := by
  cases item with
  | column name direction =>
    cases entry with
    | column other old => rw [redirect, if_neg fun heq => h name rfl (congrArg some heq)]
    | expr | random => rfl
  | expr | random => rfl

lemma map_redirect_of_not_mem (h : ∀ name, item.column? = some name → name ∉ columns entries) :
    entries.map (redirect item) = entries := by
  refine (List.map_congr_left fun entry hentry => ?_).trans (List.map_id entries)
  exact redirect_of_ne fun name hitem hentry' =>
    h name hitem (mem_columns.mpr ⟨entry, hentry, hentry'⟩)

/-- Where each column stands once, a column that is there is redirected and nothing is moved. -/
lemma set_of_mem (hnodup : (columns entries).Nodup) (h : name ∈ columns entries) :
    set name direction entries = entries.map (redirect (.column name direction)) := by
  induction entries with
  | nil => simp [columns] at h
  | cons entry entries ih =>
    cases entry with
    | column other old =>
      rw [columns_column_cons, List.nodup_cons] at hnodup
      rw [columns_column_cons, List.mem_cons] at h
      by_cases hother : other = name
      · subst hother
        have hrest : entries.map (redirect (.column other direction)) = entries := by
          apply map_redirect_of_not_mem
          rintro name ⟨⟩
          exact hnodup.1
        rw [set, if_pos rfl, List.map_cons, hrest, redirect, if_pos rfl]
      · rw [set, if_neg hother, List.map_cons, redirect, if_neg hother,
          ih hnodup.2 (h.resolve_left (Ne.symm hother))]
    | expr e => exact congrArg (.expr e :: ·) (ih hnodup h)
    | random => exact congrArg (.random :: ·) (ih hnodup h)

/-- What an ordering does not have goes to its end. -/
lemma enter_of_not_mem (h : ∀ name, item.column? = some name → name ∉ columns entries) :
    enter entries item = entries ++ [item] := by
  cases item with
  | column name direction =>
    exact set_of_forall_ne fun _ hmem => h name rfl (mem_columns.mpr ⟨_, hmem, rfl⟩)
  | expr | random => rfl

/-! ### First and last mentions -/

/-- What was not mentioned before is a first mention. -/
lemma firsts_concat (h : ∀ name, item.column? = some name → name ∉ columns mentions) :
    firsts (mentions ++ [item]) = firsts mentions ++ [item] := by
  induction mentions with
  | nil => cases item <;> rfl
  | cons mention mentions ih =>
    cases mention with
    | column other old =>
      have hitem : item.column? ≠ some other := fun hsame => h other hsame List.mem_cons_self
      have hrest : ∀ name, item.column? = some name → name ∉ columns mentions :=
        fun name hname hmem => h name hname (List.mem_cons_of_mem other hmem)
      rw [List.cons_append, firsts, firsts, ih hrest, List.filter_append,
        List.filter_cons_of_pos (by simpa using hitem), List.filter_nil, List.cons_append]
    | expr e => exact congrArg (.expr e :: ·) (ih h)
    | random => exact congrArg (.random :: ·) (ih h)

/-- A further mention of a column is no first one. -/
lemma firsts_concat_of_mem (h : name ∈ columns mentions) (direction : Direction) :
    firsts (mentions ++ [.column name direction]) = firsts mentions := by
  induction mentions with
  | nil => simp [columns] at h
  | cons mention mentions ih =>
    cases mention with
    | column other old =>
      rw [List.cons_append, firsts, firsts]
      by_cases hmem : name ∈ columns mentions
      · rw [ih hmem]
      · -- the column is the one in front, so its further mention is dropped behind it
        have hsame : name = other := (List.mem_cons.mp h).resolve_right hmem
        subst hsame
        have hconcat : firsts (mentions ++ [.column name direction]) =
            firsts mentions ++ [.column name direction] := by
          apply firsts_concat
          rintro _ ⟨⟩
          exact hmem
        rw [hconcat, List.filter_append, List.filter_cons_of_neg (by simp [column?]),
          List.filter_nil, List.append_nil]
    | expr e => exact congrArg (.expr e :: ·) (ih h)
    | random => exact congrArg (.random :: ·) (ih h)

/-- Dropping repeated mentions drops no column. -/
lemma mem_columns_firsts : name ∈ columns (firsts mentions) ↔ name ∈ columns mentions := by
  induction mentions with
  | nil => rfl
  | cons mention mentions ih =>
    cases mention with
    | column other old =>
      have hrest : name ∈ columns ((firsts mentions).filter (·.column? ≠ some other)) ↔
          name ∈ columns (firsts mentions) ∧ name ≠ other := by
        simp only [mem_columns, List.mem_filter, decide_eq_true_eq, and_assoc]
        constructor
        · rintro ⟨item, hitem, hne, hname⟩
          exact ⟨⟨item, hitem, hname⟩, fun hsame => hne (hsame ▸ hname)⟩
        · rintro ⟨⟨item, hitem, hname⟩, hne⟩
          exact ⟨item, hitem, by rw [hname]; exact mt Option.some.inj hne, hname⟩
      rw [firsts, columns_column_cons, columns_column_cons, List.mem_cons, List.mem_cons, hrest, ih]
      tauto
    | expr | random => exact ih

/-- Of each column, one mention is the first. -/
lemma nodup_columns_firsts (mentions : List OrderItem) : (columns (firsts mentions)).Nodup := by
  induction mentions with
  | nil => exact List.nodup_nil
  | cons mention mentions ih =>
    cases mention with
    | column name direction =>
      rw [firsts, columns_column_cons, List.nodup_cons]
      refine ⟨?_, ih.sublist (List.filter_sublist.filterMap _)⟩
      simp [mem_columns]
    | expr | random => exact ih

/-- Directions change, columns do not. -/
lemma columns_map_latest (mentions entries : List OrderItem) :
    columns (entries.map (latest mentions)) = columns entries := by
  rw [columns, List.filterMap_map]
  refine List.filterMap_congr fun item _ => ?_
  cases item <;> rfl

/-- A further mention redirects its column. -/
lemma latest_concat (mentions : List OrderItem) (item entry : OrderItem) :
    latest (mentions ++ [item]) entry = redirect item (latest mentions entry) := by
  cases entry with
  | column name direction =>
    cases item with
    | column other new =>
      by_cases hname : name = other
      · simp [latest, redirect, directionOf?, hname]
      · simp [latest, redirect, directionOf?, hname, Ne.symm hname]
    | expr | random => simp [latest, redirect, directionOf?]
  | expr | random => cases item <;> rfl

lemma redirect_latest_self (mentions : List OrderItem) (item : OrderItem) :
    redirect item (latest mentions item) = item := by
  cases item <;> simp [latest, redirect]

/-- Of several mentions of a column the last one gives the direction. -/
lemma map_latest_concat (mentions entries : List OrderItem) (item : OrderItem) :
    entries.map (latest (mentions ++ [item])) =
      (entries.map (latest mentions)).map (redirect item) := by
  rw [List.map_map]
  exact List.map_congr_left fun entry _ => latest_concat mentions item entry

/-! ### Many mentions -/

/-- Entering a further mention keeps an ordering the first mentions with the last directions. -/
lemma enter_map_latest (mentions : List OrderItem) (item : OrderItem) :
    enter ((firsts mentions).map (latest mentions)) item =
      (firsts (mentions ++ [item])).map (latest (mentions ++ [item])) := by
  have hcolumns := columns_map_latest mentions (firsts mentions)
  rw [map_latest_concat]
  by_cases hnew : ∀ name, item.column? = some name → name ∉ columns mentions
  · have habsent : ∀ name, item.column? = some name →
        name ∉ columns ((firsts mentions).map (latest mentions)) := fun name hitem => by
      rw [hcolumns, mem_columns_firsts]
      exact hnew name hitem
    rw [enter_of_not_mem habsent, firsts_concat hnew, List.map_append, List.map_append,
      map_redirect_of_not_mem habsent, List.map_singleton, List.map_singleton,
      redirect_latest_self]
  · push Not at hnew
    obtain ⟨name, hitem, hmem⟩ := hnew
    cases item with
    | column other direction =>
      obtain rfl := Option.some.inj hitem
      rw [firsts_concat_of_mem hmem]
      refine set_of_mem ?_ ?_
      · exact hcolumns ▸ nodup_columns_firsts mentions
      · rw [hcolumns, mem_columns_firsts]
        exact hmem
    | expr | random => cases hitem

/-- Mentions that are entered one after the other are the first ones, with the last directions. -/
lemma foldl_enter (mentions : List OrderItem) :
    mentions.foldl enter [] = (firsts mentions).map (latest mentions) := by
  induction mentions using List.reverseRecOn with
  | nil => rfl
  | append_singleton mentions item ih =>
    rw [List.foldl_append, ih, List.foldl_cons, List.foldl_nil, enter_map_latest]

end OrderItem

/-! ### Calls -/

namespace OrderCall

variable {q : Query}

/-- A part of a list is entered as what it mentions. -/
lemma orderBy_orderByPart (q : Query) (part : String) :
    (q.orderByPart part).orderBy = OrderItem.enter q.orderBy (.ofPart part) := by
  rw [Query.orderByPart, OrderItem.ofPart]
  cases ListText.direction? part.toList <;> rfl

lemma orderBy_addOrderBy (q : Query) (text : String) :
    (q.addOrderBy text).orderBy =
      ((ListText.parts text).map OrderItem.ofPart).foldl OrderItem.enter q.orderBy := by
  rw [Query.addOrderBy]
  induction ListText.parts text generalizing q with
  | nil => rfl
  | cons part parts ih =>
    rw [List.foldl_cons, ih, orderBy_orderByPart, List.map_cons, List.foldl_cons]

/-- A call enters its mentions one after the other. -/
lemma orderBy_order (q : Query) (call : OrderCall) :
    (q.order call).orderBy =
      call.mentions.foldl OrderItem.enter (if call.replaces then [] else q.orderBy) := by
  cases call with
  | replace text => exact orderBy_addOrderBy { q with orderBy := [] } text
  | add text => exact orderBy_addOrderBy q text
  | column | expr | random => rfl

/-- A call that replaces the ordering makes the calls before it count no more. -/
lemma current_concat (calls : List OrderCall) (call : OrderCall) :
    current (calls ++ [call]) = if call.replaces then [call] else current calls ++ [call] := by
  induction calls with
  | nil => simp [current]
  | cons first calls ih =>
    rw [List.cons_append, current, current, ih]
    cases hcall : call.replaces <;> cases hcalls : calls.any replaces <;> simp [hcall, hcalls]

/-- After some calls, an ordering holds what the current ones mention. -/
lemma orderBy_foldl_order (calls : List OrderCall) (hempty : q.orderBy = []) :
    (calls.foldl Query.order q).orderBy =
      ((current calls).flatMap mentions).foldl OrderItem.enter [] := by
  induction calls using List.reverseRecOn with
  | nil => exact hempty
  | append_singleton calls call ih =>
    rw [List.foldl_append, List.foldl_cons, List.foldl_nil, orderBy_order, ih, current_concat]
    cases call.replaces with
    | true => simp
    | false => simp [List.flatMap_append, List.foldl_append]

/-- After any calls on a new query, no column is in the ordering twice. The entries are the first
mentions since the ordering was last replaced, in order, and each column has the direction of its
last mention. -/
theorem orderBy_eq_firsts (calls : List OrderCall) :
    let entries := (calls.foldl Query.order Query.empty).orderBy
    let mentioned := (current calls).flatMap mentions
    (OrderItem.columns entries).Nodup ∧
      entries = (OrderItem.firsts mentioned).map (OrderItem.latest mentioned) := by
  intro entries mentioned
  have hentries : entries = (OrderItem.firsts mentioned).map (OrderItem.latest mentioned) :=
    (orderBy_foldl_order calls rfl).trans (OrderItem.foldl_enter mentioned)
  refine ⟨?_, hentries⟩
  rw [hentries, OrderItem.columns_map_latest]
  exact OrderItem.nodup_columns_firsts mentioned

example : ([.add "x", .replace "a, b DESC", .random, .column " a " .desc,
    .add "c, b"].foldl Query.order Query.empty).orderBy =
    [.column "a" .desc, .column "b" .asc, .random, .column "c" .asc] := by
  rfl

end OrderCall

end SqlCompose
