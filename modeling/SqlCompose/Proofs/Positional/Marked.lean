import Mathlib
import SqlCompose.Proofs.Binding.Fresh
import SqlCompose.Proofs.Draft
import SqlCompose.Proofs.Positional.Ending
import SqlCompose.Proofs.Reading.Value

/-!
# Markers in the place of placeholders

A name stands between what is before and what is after it. If nothing is open before it, and it has
a value, it becomes the next marker, and its value comes next in the list; within a quote that is
open it stays as it is. A placeholder is such a name exactly if a letter is the first letter or
digit of its hint. After a digit, nothing of it is a name, so it stays and its value is not listed.
-/

namespace SqlCompose

open SqlToken

namespace SqlToken

variable {quotes : Char → Option Char} {s t : List Char} {ts us : List SqlToken}

/-- Characters that are neither colons nor quotes are taken one by one. -/
lemma Splits.append_others {cs : List Char} (hcs : ∀ c ∈ cs, quotes c = none ∧ c ≠ ':')
    (hs : Splits quotes s ts) : Splits quotes (cs ++ s) (cs.map .other ++ ts) := by
  induction cs with
  | nil => exact hs
  | cons c cs ih =>
    rw [List.forall_mem_cons] at hcs
    exact .other hcs.1.1 (fun hc => absurd hc hcs.1.2) (ih hcs.2)

/-- Behind a text that leaves nothing open, the tokens start anew. -/
lemma scan_append (hend : ending closing? s = .closed)
    (hhead : ∀ d ∈ t.head?, isNameChar d = false) : scan (s ++ t) = scan s ++ scan t :=
  ((splits_scan s).append areQuotes_closing hend (splits_scan t) hhead).eq_scan.symm

/-- A name between a colon and what is no part of a name is one token. -/
lemma scan_name {c : Char} {name rest : List Char} (hstart : isNameStart c = true)
    (hname : ∀ d ∈ name, isNameChar d = true) (hend : ∀ d ∈ rest.head?, isNameChar d = false) :
    scan (':' :: c :: name ++ rest) = .name (c :: name) :: scan rest :=
  (Splits.name hstart hname hend (splits_scan rest)).eq_scan.symm

end SqlToken

namespace Built

/-- What a part of a statement becomes if so many values stand before it, and its values. -/
def marked (style : MarkerStyle) (params : Params) (n : Nat) (s : List Char) :
    List Char × List Value :=
  placeMarkers style params n (scan s)

/-- What a statement becomes if between two of its parts there is the marker of a value. -/
def withMarker (style : MarkerStyle) (params : Params) (before after : List Char) (v : Value) :
    String × List Value :=
  let left := marked style params 0 before
  let right := marked style params (left.2.length + 1) after
  (.ofList (left.1 ++ style.marker (left.2.length + 1) ++ right.1), left.2 ++ v :: right.2)

/-- What a statement becomes if a text between two of its parts stays as it is. -/
def withText (style : MarkerStyle) (params : Params) (before text after : List Char) :
    String × List Value :=
  let left := marked style params 0 before
  let right := marked style params left.2.length after
  (.ofList (left.1 ++ text ++ right.1), left.2 ++ right.2)

variable {b : Built} {before after name : List Char} {c : Char} {v : Value}

/-- A name that has a value is replaced where nothing is open. -/
lemma toPositional_of_closed (hsql : b.sql.toList = before ++ (':' :: c :: name ++ after))
    (hend : ending closing? before = .closed) (hstart : isNameStart c = true)
    (hname : ∀ d ∈ name, isNameChar d = true) (hafter : ∀ d ∈ after.head?, isNameChar d = false)
    (hv : value? b.allParams (.name (c :: name)) = some v) (style : MarkerStyle) :
    b.toPositional style = withMarker style b.allParams before after v := by
  have hscan : scan b.sql.toList = scan before ++ .name (c :: name) :: scan after := by
    rw [hsql, scan_append hend (by simp; decide), scan_name hstart hname hafter]
  rw [toPositional_eq, hscan, placeMarkers_append]
  simp [placeMarkers_cons_some hv, withMarker, marked]

lemma placeMarkers_map_other (style : MarkerStyle) (params : Params) (n : Nat) (cs : List Char) :
    placeMarkers style params n (cs.map .other) = (cs, []) := by
  induction cs with
  | nil => rfl
  | cons c cs ih =>
    rw [List.map_cons, placeMarkers_cons_none rfl, ih]
    rfl

/-- A colon before a character that starts no name stays as it is, with the characters of names
after it. -/
lemma toPositional_of_not_isNameStart (hsql : b.sql.toList = before ++ (':' :: c :: name ++ after))
    (hend : ending closing? before = .closed) (hstart : isNameStart c = false)
    (hname : ∀ d ∈ c :: name, isNameChar d = true) (style : MarkerStyle) :
    b.toPositional style = withText style b.allParams before (':' :: c :: name) after := by
  have hcolon : ∀ d ∈ (c :: name ++ after).head?, d ≠ ':' ∧ isNameStart d = false := by
    intro d hd
    obtain rfl := Option.some.inj hd
    exact ⟨ne_colon_of_isNameChar (hname c List.mem_cons_self), hstart⟩
  have hothers : ∀ d ∈ c :: name, closing? d = none ∧ d ≠ ':' := fun d hd =>
    ⟨areQuotes_closing.nameChar d (hname d hd), ne_colon_of_isNameChar (hname d hd)⟩
  have hsplits : Splits closing? (':' :: c :: name ++ after)
      ((':' :: c :: name).map .other ++ scan after) :=
    .other rfl (fun _ => hcolon) ((splits_scan after).append_others hothers)
  have hscan : scan b.sql.toList =
      scan before ++ ((':' :: c :: name).map .other ++ scan after) := by
    rw [hsql, scan_append hend (by simp; decide), ← hsplits.eq_scan]
  rw [toPositional_eq, hscan]
  simp only [placeMarkers_append, placeMarkers_map_other]
  simp [withText, marked]

/-- Within a quote that is open, what the closing one is not in stays as it is, with what follows up
to the closing one. -/
lemma toPositional_of_quoted {q : Char} {text : List Char}
    (hsql : b.sql.toList = before ++ (text ++ after)) (hend : ending closing? before = .quoted q)
    (htext : q ∉ text) (style : MarkerStyle) : ∃ more rest, after = more ++ rest ∧
      b.toPositional style = withText style b.allParams before (text ++ more) rest := by
  refine ⟨(takeThrough q after).1, (takeThrough q after).2,
    (takeThrough_fst_append_snd q after).symm, ?_⟩
  have hrest : Splits closing? (takeThrough q (text ++ after)).2
      (scan (takeThrough q after).2) := by
    rw [takeThrough_append htext]
    exact splits_scan _
  obtain ⟨ts, inside, hbefore, hsplits⟩ :=
    (splits_scan before).append_of_quoted areQuotes_closing hend hrest
  rw [takeThrough_append htext] at hsplits
  rw [toPositional_eq, hsql, ← hsplits.eq_scan, withText, marked, hbefore, placeMarkers_append,
    placeMarkers_append]
  simp [chars, placeMarkers, marked]

end Built

namespace Binding

/-- Whether the first letter or digit of a hint is a letter, or there is none. -/
def startsWithLetter (hint : String) : Bool := (hint.toList.find? Char.isAlphanum).all Char.isAlpha

/-- A placeholder starts as its hint does. -/
lemma exists_toList_base (hint : String) : ∃ c cs, (base hint).toList = c :: cs ∧
    c.isAlpha = startsWithLetter hint := by
  rw [startsWithLetter, ← List.head?_filter, base]
  cases hint.toList.filter Char.isAlphanum with
  | nil => exact ⟨'p', [], rfl, rfl⟩
  | cons c cs => exact ⟨c, cs, by simp, rfl⟩

lemma isNameChar_of_isAlphanum {c : Char} (h : c.isAlphanum = true) : isNameChar c = true := by
  rw [isNameChar, h, Bool.true_or]

/-- Among letters and digits, just the letters start a name. -/
lemma isNameStart_of_isAlphanum {c : Char} (h : c.isAlphanum = true) :
    isNameStart c = c.isAlpha := by
  have hc : (c == '_') = false := by
    rw [beq_eq_false_iff_ne]
    rintro rfl
    exact absurd h (by decide)
  rw [isNameStart, hc, Bool.or_false]

/-- A placeholder is a colon and characters of names, and whether a name can start there is said by
its hint. -/
lemma exists_toList_freshName (b : Binding) (hint : String) : ∃ c name,
    (b.freshName hint).toList = ':' :: c :: name ∧ isNameStart c = startsWithLetter hint ∧
      ∀ d ∈ c :: name, isNameChar d = true := by
  obtain ⟨c, cs, hbase, hc⟩ := exists_toList_base hint
  have hchars : ∀ d ∈ (base hint).toList ++ (toString (b.nextNumber hint)).toList,
      isNameChar d = true := by
    intro d hd
    apply isNameChar_of_isAlphanum
    rcases List.mem_append.mp hd with hd | hd
    · exact isAlphanum_of_mem_base hd
    · rw [Nat.toString_eq_ofList_toDigits, String.toList_ofList] at hd
      have hdigit := Nat.isDigit_of_mem_toDigits (by decide) (by decide) hd
      rw [Char.isAlphanum, hdigit, Bool.or_true]
  refine ⟨c, cs ++ (toString (b.nextNumber hint)).toList, ?_, ?_, ?_⟩
  · rw [freshName, toList_placeholder, hbase, List.cons_append]
  · rw [isNameStart_of_isAlphanum (isAlphanum_of_mem_base (hbase ▸ List.mem_cons_self)), hc]
  · rwa [hbase] at hchars

/-- The placeholder of a value, where nothing is open before it and no name could go on after it,
becomes one marker with the bound value if its hint starts with a letter. Else it stays as it is,
and its value is not listed. -/
theorem toPositional_bind (b : Binding) (hint : String) (v : Value) (before after : String)
    (style : MarkerStyle) (hmode : b.inline = false)
    (hbefore : ending closing? before.toList = .closed)
    (hafter : ∀ c ∈ after.toList.head?, isNameChar c = false) :
    let placed := b.bind hint v
    (Built.of (before ++ placed.1 ++ after) placed.2.params).toPositional style =
      if startsWithLetter hint then
        Built.withMarker style placed.2.params before.toList after.toList (boundValue b.dialect v)
      else
        Built.withText style placed.2.params before.toList placed.1.toList after.toList := by
  obtain ⟨c, name, hchars, hc, hname⟩ := b.exists_toList_freshName hint
  dsimp only
  rw [bind_fst hmode, bind_snd_params hmode]
  set params := b.params.insert (b.freshName hint) (boundValue b.dialect v)
  have hsql : (Built.of (before ++ b.freshName hint ++ after) params).sql.toList =
      before.toList ++ (':' :: c :: name ++ after.toList) := by
    rw [Built.of, String.toList_append, String.toList_append, hchars, List.append_assoc]
  rw [List.forall_mem_cons] at hname
  split
  · rename_i hletter
    have hvalue : value? params (.name (c :: name)) = some (boundValue b.dialect v) := by
      have hself : ":" ++ String.ofList (c :: name) = b.freshName hint := by
        rw [← String.toList_inj, hchars]
        simp
      rw [value?, hself, Params.get?_insert_self]
    have hplaced := Built.toPositional_of_closed hsql hbefore (hc.trans hletter) hname.2 hafter
      (by rwa [Built.allParams_of]) style
    rwa [Built.allParams_of] at hplaced
  · rename_i hdigit
    have hkept := Built.toPositional_of_not_isNameStart hsql hbefore
      (hc.trans (Bool.eq_false_iff.mpr hdigit)) (List.forall_mem_cons.mpr hname) style
    rwa [Built.allParams_of, ← hchars] at hkept

/-- The placeholder of a column whose name starts with a digit stays, its value is not listed. -/
theorem toPositional_bind_leadingDigit :
    let placed := (Binding.start .pgsql false).bind "2fa" (.int 1)
    ending closing? "\"2fa\" = ".toList = .closed ∧ placed.1 = ":2fa1" ∧
      (Built.of ("\"2fa\" = " ++ placed.1 ++ "") placed.2.params).toPositional .dollar =
        ("\"2fa\" = :2fa1", []) := by
  have hclosed : ending closing? "\"2fa\" = ".toList = .closed := by decide +kernel
  have hkept := (Binding.start .pgsql false).toPositional_bind "2fa" (.int 1) "\"2fa\" = " ""
    .dollar rfl hclosed (by simp)
  refine ⟨hclosed, by decide +kernel, hkept.trans ?_⟩
  decide +kernel

end Binding

end SqlCompose
