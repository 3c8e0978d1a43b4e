import Mathlib
import SqlCompose.Params

/-!
# What a parameter map holds

A map is seen through the pairs of its list. Setting a name, taking over another map, and taking
over several maps one after the other each get one membership law; of several maps that give a name,
the last one counts.
-/

namespace SqlCompose

/-! ### Entries -/

lemma mem_setEntry {β : Type} {name n : String} {value v : β} {entries : List (String × β)}
    (hnd : (entries.map Prod.fst).Nodup) :
    (n, v) ∈ setEntry name value entries ↔
      (n = name ∧ v = value) ∨ (n ≠ name ∧ (n, v) ∈ entries) := by
  induction entries with
  | nil => simp [setEntry]
  | cons entry rest ih =>
    obtain ⟨other, old⟩ := entry
    simp only [List.map_cons, List.nodup_cons] at hnd
    by_cases h : other = name
    · subst h
      have habsent : ∀ w, (other, w) ∉ rest := fun w hw =>
        hnd.1 (List.mem_map_of_mem (f := Prod.fst) hw)
      simp only [setEntry, if_true, List.mem_cons, Prod.mk.injEq]
      constructor
      · rintro (h | h)
        · exact .inl h
        · exact .inr ⟨fun hn => habsent v (hn ▸ h), .inr h⟩
      · rintro (h | ⟨hn, h | h⟩)
        · exact .inl h
        · exact absurd h.1 hn
        · exact .inr h
    · simp only [setEntry, if_neg h, List.mem_cons, Prod.mk.injEq, ih hnd.2]
      constructor
      · rintro (⟨rfl, rfl⟩ | h' | ⟨hn, h'⟩)
        · exact .inr ⟨h, .inl ⟨rfl, rfl⟩⟩
        · exact .inl h'
        · exact .inr ⟨hn, .inr h'⟩
      · rintro (h' | ⟨hn, h' | h'⟩)
        · exact .inr (.inl h')
        · exact .inl h'
        · exact .inr (.inr ⟨hn, h'⟩)

lemma setEntry_of_not_mem {β : Type} {name : String} {entries : List (String × β)}
    (h : name ∉ entries.map Prod.fst) (value : β) :
    setEntry name value entries = entries ++ [(name, value)] := by
  induction entries with
  | nil => rfl
  | cons entry entries ih =>
    rw [List.map_cons, List.mem_cons, not_or] at h
    rw [setEntry, if_neg (Ne.symm h.1), ih h.2, List.cons_append]

lemma lookup_setEntry_self {β : Type} (name : String) (value : β) (entries : List (String × β)) :
    (setEntry name value entries).lookup name = some value := by
  induction entries with
  | nil => simp [setEntry]
  | cons entry rest ih =>
    obtain ⟨other, old⟩ := entry
    by_cases h : other = name
    · simp [setEntry, h]
    · have hname : (name == other) = false := beq_eq_false_iff_ne.mpr (Ne.symm h)
      simp [setEntry, h, List.lookup_cons, hname, ih]

/-- Where every name stands once, a name has the value that stands with it. -/
lemma lookup_eq_some_iff_mem {β : Type} {name : String} {value : β} {entries : List (String × β)}
    (hnd : (entries.map Prod.fst).Nodup) :
    entries.lookup name = some value ↔ (name, value) ∈ entries := by
  induction entries with
  | nil => simp
  | cons entry rest ih =>
    obtain ⟨other, old⟩ := entry
    rw [List.map_cons, List.nodup_cons] at hnd
    rw [List.lookup_cons, List.mem_cons, Prod.mk.injEq]
    by_cases h : name = other
    · subst h
      have habsent : (name, value) ∉ rest := fun hmem =>
        hnd.1 (List.mem_map.mpr ⟨_, hmem, rfl⟩)
      simp [habsent, eq_comm]
    · rw [beq_eq_false_iff_ne.mpr h]
      simp [h, ih hnd.2]

namespace Params

@[simp] lemma toList_empty : (∅ : Params).toList = [] := rfl

@[simp] lemma names_empty : (∅ : Params).names = [] := rfl

lemma names_eq_map (p : Params) : p.names = p.toList.map Prod.fst := rfl

lemma length_names (p : Params) : p.names.length = p.size := List.length_map _

lemma nodup_names (p : Params) : p.names.Nodup := p.map.nodup

lemma mem_names {p : Params} {n : String} : n ∈ p.names ↔ ∃ v, (n, v) ∈ p.toList := by
  simp [names_eq_map]

lemma isEmpty_iff {p : Params} : p.isEmpty = true ↔ p.toList = [] := by
  simp [isEmpty, OrderedMap.isEmpty, toList]

/-! ### Setting a name -/

/-- Of the names of some parameters, only the one that is set changes its value. -/
lemma mem_insert {p : Params} {name n : String} {value v : Value} :
    (n, v) ∈ (p.insert name value).toList ↔
      (n = normalize name ∧ v = value) ∨ (n ≠ normalize name ∧ (n, v) ∈ p.toList) :=
  mem_setEntry p.map.nodup

lemma mem_names_insert {p : Params} {name n : String} {value : Value} :
    n ∈ (p.insert name value).names ↔ n = normalize name ∨ n ∈ p.names := by
  by_cases h : n = normalize name <;> simp [mem_names, mem_insert, h]

/-- A new name goes to the end. -/
lemma toList_insert_of_not_mem {p : Params} {name : String} (h : normalize name ∉ p.names)
    (v : Value) : (p.insert name v).toList = p.toList ++ [(normalize name, v)] :=
  setEntry_of_not_mem h v

/-- A name has the value that it was set to. -/
lemma get?_insert_self (p : Params) (name : String) (value : Value) :
    (p.insert name value).get? name = some value := lookup_setEntry_self _ _ _

/-! ### Taking over maps -/

/-- The values of a list win over those that a map had before. -/
private lemma mem_insertMany {m : OrderedMap Value} {entries : List (String × Value)}
    (hnd : (entries.map Prod.fst).Nodup) {n : String} {v : Value} :
    (n, v) ∈ (m.insertMany entries).entries ↔
      (n, v) ∈ entries ∨ (n ∉ entries.map Prod.fst ∧ (n, v) ∈ m.entries) := by
  induction entries generalizing m with
  | nil => simp [OrderedMap.insertMany]
  | cons entry rest ih =>
    obtain ⟨name, value⟩ := entry
    simp only [List.map_cons, List.nodup_cons] at hnd
    have hstep : m.insertMany ((name, value) :: rest) = (m.insert name value).insertMany rest := rfl
    have habsent : ∀ w, (name, w) ∉ rest := fun w hw =>
      hnd.1 (List.mem_map_of_mem (f := Prod.fst) hw)
    rw [hstep, ih hnd.2, OrderedMap.entries_insert, mem_setEntry m.nodup]
    simp only [List.mem_cons, Prod.mk.injEq, List.map_cons, not_or]
    constructor
    · rintro (h | ⟨hr, h | ⟨hn, h⟩⟩)
      · exact .inl (.inr h)
      · exact .inl (.inl h)
      · exact .inr ⟨⟨hn, hr⟩, h⟩
    · rintro ((⟨rfl, rfl⟩ | h) | ⟨⟨hn, hr⟩, h⟩)
      · exact .inr ⟨hnd.1, .inl ⟨rfl, rfl⟩⟩
      · exact .inl h
      · exact .inr ⟨hr, .inr ⟨hn, h⟩⟩

/-- On a name of both maps, the map that is taken over counts. -/
lemma mem_extend {p q : Params} {n : String} {v : Value} :
    (n, v) ∈ (p.extend q).toList ↔
      (n, v) ∈ q.toList ∨ (n ∉ q.names ∧ (n, v) ∈ p.toList) :=
  mem_insertMany q.map.nodup

/-- Taking over a map adds its names and drops none. -/
lemma mem_names_extend {p q : Params} {n : String} :
    n ∈ (p.extend q).names ↔ n ∈ q.names ∨ n ∈ p.names := by
  constructor
  · rintro h
    obtain ⟨v, hv⟩ := mem_names.mp h
    rcases mem_extend.mp hv with hq | ⟨-, hp⟩
    · exact .inl (mem_names.mpr ⟨v, hq⟩)
    · exact .inr (mem_names.mpr ⟨v, hp⟩)
  · by_cases hq : n ∈ q.names
    · obtain ⟨v, hv⟩ := mem_names.mp hq
      exact fun _ => mem_names.mpr ⟨v, mem_extend.mpr (.inl hv)⟩
    · rintro (h | h)
      · exact absurd h hq
      · obtain ⟨v, hv⟩ := mem_names.mp h
        exact mem_names.mpr ⟨v, mem_extend.mpr (.inr ⟨hq, hv⟩)⟩

/-- Take over maps one after the other. -/
def extendAll (p : Params) (maps : List Params) : Params := maps.foldl extend p

/-- Some maps taken together. -/
def merged (maps : List Params) : Params := extendAll ∅ maps

lemma mem_names_extendAll {p : Params} {maps : List Params} {n : String} :
    n ∈ (p.extendAll maps).names ↔ (∃ m ∈ maps, n ∈ m.names) ∨ n ∈ p.names := by
  induction maps generalizing p with
  | nil => simp [extendAll]
  | cons m maps ih =>
    have hstep : p.extendAll (m :: maps) = (p.extend m).extendAll maps := rfl
    rw [hstep, ih, mem_names_extend]
    simp only [List.mem_cons, exists_eq_or_imp]
    rw [or_left_comm, or_assoc]

lemma mem_names_merged {maps : List Params} {n : String} :
    n ∈ (merged maps).names ↔ ∃ m ∈ maps, n ∈ m.names := by
  simp [merged, mem_names_extendAll]

/-- What was there keeps its value unless one of the maps gives its name. -/
lemma mem_extendAll {p : Params} {maps : List Params} {n : String} {v : Value} :
    (n, v) ∈ (p.extendAll maps).toList ↔
      (n, v) ∈ (merged maps).toList ∨ (n ∉ (merged maps).names ∧ (n, v) ∈ p.toList) := by
  induction maps generalizing p with
  | nil => simp [extendAll, merged]
  | cons m maps ih =>
    have hstep (q : Params) : q.extendAll (m :: maps) = (q.extend m).extendAll maps := rfl
    have hmerged : merged (m :: maps) = (extend ∅ m).extendAll maps := rfl
    rw [hstep, hmerged, ih, ih, mem_names_extendAll, mem_extend, mem_extend, mem_names_extend]
    simp only [toList_empty, names_empty, List.not_mem_nil, and_false, or_false, not_or,
      ← mem_names_merged]
    tauto

lemma merged_concat (maps : List Params) (m : Params) :
    merged (maps ++ [m]) = (merged maps).extend m := by
  simp [merged, extendAll]

/-- A pair of one of some maps whose name none of the maps after it gives. -/
def IsLastGiven (maps : List Params) (n : String) (v : Value) : Prop :=
  ∃ earlier m later, maps = earlier ++ m :: later ∧ (n, v) ∈ m.toList ∧ ∀ m' ∈ later, n ∉ m'.names

lemma not_isLastGiven_nil {n : String} {v : Value} : ¬ IsLastGiven [] n v := by
  rintro ⟨earlier, m, later, h, -⟩
  simp at h

/-- Of the values given for a name by several maps, that of the last map counts. -/
lemma isLastGiven_concat {maps : List Params} {m : Params} {n : String} {v : Value} :
    IsLastGiven (maps ++ [m]) n v ↔ (n, v) ∈ m.toList ∨ (n ∉ m.names ∧ IsLastGiven maps n v) := by
  constructor
  · rintro ⟨earlier, m₀, later, hmaps, hv, hlater⟩
    rcases List.eq_nil_or_concat later with rfl | ⟨later, last, rfl⟩
    · obtain ⟨-, rfl⟩ := List.append_singleton_inj.mp hmaps
      exact .inl hv
    · rw [List.concat_eq_append] at hmaps hlater
      rw [← List.cons_append, ← List.append_assoc] at hmaps
      obtain ⟨rfl, rfl⟩ := List.append_singleton_inj.mp hmaps
      exact .inr ⟨hlater m (by simp), earlier, m₀, later, rfl, hv,
        fun m' hm' => hlater m' (by simp [hm'])⟩
  · rintro (hv | ⟨hn, earlier, m₀, later, rfl, hv, hlater⟩)
    · exact ⟨maps, m, [], rfl, hv, by simp⟩
    · refine ⟨earlier, m₀, later ++ [m], by simp, hv, ?_⟩
      intro m' hm'
      rcases List.mem_append.mp hm' with h | h
      · exact hlater m' h
      · rwa [List.mem_singleton.mp h]

/-- Of the maps that give a name, the last one counts. -/
lemma mem_merged {maps : List Params} {n : String} {v : Value} :
    (n, v) ∈ (merged maps).toList ↔ IsLastGiven maps n v := by
  induction maps using List.reverseRecOn with
  | nil => simp [merged, extendAll, not_isLastGiven_nil]
  | append_singleton maps m ih => rw [merged_concat, mem_extend, isLastGiven_concat, ih]

/-- Each value of the maps taken together is one that a map gave. -/
lemma exists_mem_of_mem_merged {maps : List Params} {e : String × Value}
    (h : e ∈ (merged maps).toList) : ∃ m ∈ maps, e ∈ m.toList := by
  obtain ⟨earlier, m, later, rfl, hv, -⟩ := mem_merged.mp h
  exact ⟨m, by simp, hv⟩

/-- A pair stays when the maps after its own give its name no other value. -/
lemma mem_merged_of_agree {earlier later : List Params} {m : Params} {n : String} {v : Value}
    (hv : (n, v) ∈ m.toList) (hagree : ∀ m' ∈ later, ∀ w, (n, w) ∈ m'.toList → w = v) :
    (n, v) ∈ (merged (earlier ++ m :: later)).toList := by
  induction later using List.reverseRecOn with
  | nil => rw [merged_concat, mem_extend]; exact .inl hv
  | append_singleton later last ih =>
    rw [← List.cons_append, ← List.append_assoc, merged_concat, mem_extend]
    by_cases hn : n ∈ last.names
    · obtain ⟨w, hw⟩ := mem_names.mp hn
      obtain rfl := hagree last (by simp) w hw
      exact .inl hw
    · exact .inr ⟨hn, ih fun m' hm' => hagree m' (by simp [hm'])⟩

end Params

end SqlCompose
