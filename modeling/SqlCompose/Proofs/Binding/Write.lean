import Mathlib
import SqlCompose.Proofs.Binding.Fresh

/-!
# Writing a fragment

A fragment that refuses nothing is written as its own text with a text for each value in place, and
`placed` says which text that is. The rest of the module says what is bound in the end. If every
name that the fragment supplies is reserved, the placeholders are all different and no supplied
name, so each of them keeps its value whatever is supplied later, and nothing but placeholders and
supplied parameters is added.
-/

namespace SqlCompose

/-! ### What a fragment holds -/

/-- The parameters of a piece that supplies some. -/
def Piece.supply? : Piece → Option Params
  | .supply params => some params
  | _ => none

def Piece.value? : Piece → Option Value
  | .slot _ v => some v
  | _ => none

namespace Fragment

/-- The parameter maps that a fragment supplies, in order. -/
def supplies (f : Fragment) : List Params := f.filterMap Piece.supply?

/-- The values that a fragment has slots for, in order. -/
def values (f : Fragment) : List Value := f.filterMap Piece.value?

/-- The text of a fragment with these texts in its slots. -/
def fill : Fragment → List String → String
  | [], _ => ""
  | .text s :: rest, texts => s ++ fill rest texts
  | .slot _ _ :: rest, text :: texts => text ++ fill rest texts
  | .slot _ _ :: rest, [] => fill rest []
  | .supply _ :: rest, texts => fill rest texts
  | .refusal _ :: _, _ => ""

@[simp] lemma error?_nil : error? [] = none := rfl

@[simp] lemma error?_text_cons (s : String) (f : Fragment) :
    error? (.text s :: f) = error? f := rfl

@[simp] lemma error?_slot_cons (hint : String) (v : Value) (f : Fragment) :
    error? (.slot hint v :: f) = error? f := rfl

@[simp] lemma error?_supply_cons (params : Params) (f : Fragment) :
    error? (.supply params :: f) = error? f := rfl

@[simp] lemma error?_refusal_cons (e : QueryError) (f : Fragment) :
    error? (.refusal e :: f) = some e := rfl

end Fragment

namespace Binding

variable {b : Binding} {f : Fragment} {n : String} {v : Value}

/-- The text that is placed for each value of a fragment, with the value, in order. -/
def placed (b : Binding) : Fragment → List (String × Value)
  | [] => []
  | .text _ :: rest => b.placed rest
  | .slot hint v :: rest => ((b.bind hint v).1, v) :: (b.bind hint v).2.placed rest
  | .supply params :: rest => (b.merge params).placed rest
  | .refusal _ :: _ => []

/-- The names of what is placed. -/
def placedNames (b : Binding) (f : Fragment) : List String := (b.placed f).map Prod.fst

/-! ### The text -/

/-- A fragment is refused with its first error, else it is its text with all values in place. -/
lemma write_fst (b : Binding) (f : Fragment) :
    (b.write f).1 = match f.error? with
      | some e => .error e
      | none => .ok (f.fill (b.placedNames f)) := by
  induction f generalizing b with
  | nil => rfl
  | cons piece rest ih =>
    cases piece with
    | text s =>
      simp only [write, ih, Fragment.error?_text_cons, placedNames, placed, Fragment.fill]
      cases Fragment.error? rest <;> rfl
    | slot hint v =>
      simp only [write, ih, Fragment.error?_slot_cons, placedNames, placed, List.map_cons,
        Fragment.fill]
      cases Fragment.error? rest <;> rfl
    | supply params => simp only [write, ih, Fragment.error?_supply_cons, placedNames, placed,
        Fragment.fill]
    | refusal e => rfl

/-- A fragment of which there is a text refuses nothing. -/
lemma error?_eq_none_of_write {text : String} (h : (b.write f).1 = .ok text) :
    f.error? = none := by
  rw [write_fst] at h
  cases he : f.error? with
  | none => rfl
  | some e => simp [he] at h

/-- Every value is placed, in order. -/
lemma map_snd_placed (h : f.error? = none) : (b.placed f).map Prod.snd = f.values := by
  induction f generalizing b with
  | nil => rfl
  | cons piece rest ih =>
    cases piece with
    | text s => exact ih h
    | slot hint v =>
      have hrest : Fragment.error? rest = none := h
      rw [placed, List.map_cons, ih hrest]
      rfl
    | supply params => exact ih h
    | refusal e => simp at h

/-! ### What is bound inline -/

/-- Inline, only supplied parameters are bound. -/
lemma write_params_inline (hmode : b.inline = true) (h : f.error? = none) :
    (b.write f).2.params = b.params.extendAll f.supplies := by
  induction f generalizing b with
  | nil => rfl
  | cons piece rest ih =>
    cases piece with
    | text s => exact ih hmode h
    | slot hint v =>
      simp only [write, bind_inline hmode]
      exact ih hmode h
    | supply params => exact ih (b := b.merge params) hmode h
    | refusal e => simp at h

/-! ### What is bound with placeholders -/

lemma bind_snd_names (hmode : b.inline = false) {hint : String} :
    n ∈ (b.bind hint v).2.params.names ↔ n = b.freshName hint ∨ n ∈ b.params.names := by
  rw [bind_snd_params hmode, Params.mem_names_insert, normalize_freshName]

/-- No placeholder is a name that was bound or reserved before. -/
lemma placedNames_fresh (hmode : b.inline = false) (hn : n ∈ b.placedNames f) :
    n ∉ b.params.names ∧ n ∉ b.reserved := by
  induction f generalizing b with
  | nil => simp [placedNames, placed] at hn
  | cons piece rest ih =>
    cases piece with
    | text s => exact ih hmode hn
    | slot hint v =>
      rw [placedNames, placed, List.map_cons, List.mem_cons] at hn
      rcases hn with rfl | hn
      · rw [bind_fst hmode]
        exact ⟨b.freshName_not_mem_names hint, b.freshName_not_mem_reserved hint⟩
      · obtain ⟨hnames, hreserved⟩ := ih (by simpa using hmode) hn
        rw [bind_snd_names hmode, not_or] at hnames
        exact ⟨hnames.2, by simpa using hreserved⟩
    | supply params =>
      obtain ⟨hnames, hreserved⟩ := ih (b := b.merge params) hmode hn
      rw [merge_params, Params.mem_names_extend, not_or] at hnames
      exact ⟨hnames.2, hreserved⟩
    | refusal e => simp [placedNames, placed] at hn

/-- No placeholder is used for two values. -/
lemma nodup_placedNames (hmode : b.inline = false) : (b.placedNames f).Nodup := by
  induction f generalizing b with
  | nil => exact List.nodup_nil
  | cons piece rest ih =>
    cases piece with
    | text s => exact ih hmode
    | slot hint v =>
      rw [placedNames, placed, List.map_cons, List.nodup_cons, bind_fst hmode]
      refine ⟨?_, ih (by simpa using hmode)⟩
      intro hmem
      have hfresh := (placedNames_fresh (by simpa using hmode) hmem).1
      exact hfresh ((bind_snd_names hmode).mpr (.inl rfl))
    | supply params => exact ih (b := b.merge params) hmode
    | refusal e => exact List.nodup_nil

/-- What is bound in the end: each placeholder with its value, what is supplied, and what was bound
before under another name. -/
lemma mem_write_params (hmode : b.inline = false) (h : f.error? = none)
    (hreserved : ∀ m ∈ f.supplies, ∀ n ∈ m.names, n ∈ b.reserved) :
    (n, v) ∈ (b.write f).2.params.toList ↔
      (∃ w, (n, w) ∈ b.placed f ∧ v = boundValue b.dialect w) ∨
      (n, v) ∈ (Params.merged f.supplies).toList ∨
      (n ∉ b.placedNames f ∧ n ∉ (Params.merged f.supplies).names ∧
        (n, v) ∈ b.params.toList) := by
  induction f generalizing b with
  | nil =>
    simp [write, placed, placedNames, Fragment.supplies, Params.merged, Params.extendAll]
  | cons piece rest ih =>
    cases piece with
    | text s => exact ih hmode h hreserved
    | slot hint w =>
      have hmode' : (b.bind hint w).2.inline = false := by simpa using hmode
      have hfresh : b.freshName hint ∉ (b.bind hint w).2.placedNames rest := fun hmem =>
        (placedNames_fresh hmode' hmem).1 ((bind_snd_names hmode).mpr (.inl rfl))
      have hunsupplied : b.freshName hint ∉ (Params.merged (Fragment.supplies rest)).names := by
        intro hmem
        obtain ⟨m, hm, hn⟩ := Params.mem_names_merged.mp hmem
        exact b.freshName_not_mem_reserved hint (hreserved m hm _ hn)
      have hsupplies : Fragment.supplies (.slot hint w :: rest) = Fragment.supplies rest := rfl
      rw [hsupplies] at hreserved ⊢
      rw [write, ih hmode' h (by simpa using hreserved), bind_snd_params hmode,
        Params.mem_insert, normalize_freshName]
      simp only [placed, placedNames, List.map_cons, List.mem_cons, bind_fst hmode, Prod.mk.injEq,
        bind_snd_dialect, not_or] at hfresh ⊢
      constructor
      · rintro (⟨w', hw', hv⟩ | hs | ⟨hp, hs, ⟨rfl, hv⟩ | ⟨hn, hb⟩⟩)
        · exact .inl ⟨w', .inr hw', hv⟩
        · exact .inr (.inl hs)
        · exact .inl ⟨w, .inl ⟨rfl, rfl⟩, hv⟩
        · exact .inr (.inr ⟨⟨hn, hp⟩, hs, hb⟩)
      · rintro (⟨w', ⟨rfl, rfl⟩ | hw', hv⟩ | hs | ⟨⟨hn, hp⟩, hs, hb⟩)
        · exact .inr (.inr ⟨hfresh, hunsupplied, .inl ⟨rfl, hv⟩⟩)
        · exact .inl ⟨w', hw', hv⟩
        · exact .inr (.inl hs)
        · exact .inr (.inr ⟨hp, hs, .inr ⟨hn, hb⟩⟩)
    | supply params =>
      have hsupplies : Fragment.supplies (.supply params :: rest) =
          params :: Fragment.supplies rest := rfl
      rw [hsupplies] at hreserved ⊢
      have hrest : ∀ m ∈ Fragment.supplies rest, ∀ n ∈ m.names, n ∈ (b.merge params).reserved :=
        fun m hm => hreserved m (List.mem_cons_of_mem _ hm)
      -- a name that the map supplies is reserved, so it is no placeholder
      have hunplaced : n ∈ params.names → n ∉ (b.merge params).placedNames rest := fun hn hmem =>
        (placedNames_fresh (b := b.merge params) hmode hmem).2
          (hreserved params List.mem_cons_self n hn)
      have hmerged : Params.merged (params :: Fragment.supplies rest) =
          (Params.extend ∅ params).extendAll (Fragment.supplies rest) := rfl
      rw [write, ih (b := b.merge params) hmode h hrest, hmerged, Params.mem_extendAll,
        Params.mem_names_extendAll, ← Params.mem_names_merged, merge_params, Params.mem_extend,
        Params.mem_extend, Params.mem_names_extend]
      have hmem : (n, v) ∈ params.toList → n ∈ params.names := fun hv =>
        Params.mem_names.mpr ⟨v, hv⟩
      simp only [placed, placedNames, merge_dialect, Params.toList_empty, Params.names_empty,
        List.not_mem_nil, and_false, or_false, not_or] at hunplaced ⊢
      constructor
      · rintro (hp | hs | ⟨hp, hs, hq | ⟨hn, hb⟩⟩)
        · exact .inl hp
        · exact .inr (.inl (.inl hs))
        · exact .inr (.inl (.inr ⟨hs, hq⟩))
        · exact .inr (.inr ⟨hp, ⟨hs, hn⟩, hb⟩)
      · rintro (hp | (hs | ⟨hs, hq⟩) | ⟨hp, ⟨hs, hn⟩, hb⟩)
        · exact .inl hp
        · exact .inr (.inl hs)
        · exact .inr (.inr ⟨hunplaced (hmem hq), hs, .inl hq⟩)
        · exact .inr (.inr ⟨hp, hs, .inr ⟨hn, hb⟩⟩)
    | refusal e => simp at h

end Binding

end SqlCompose
