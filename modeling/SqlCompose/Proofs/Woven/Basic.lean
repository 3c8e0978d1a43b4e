import Mathlib
import SqlCompose.Proofs.Binding.Write
import SqlCompose.Proofs.Reading.Name
import SqlCompose.Proofs.Text.Blank
import SqlCompose.Proofs.Text.Split

/-!
# How a text is put together

A text is seen as marks: its characters, and the places of its values. It is woven from the texts of
a caller if it is put together of parts of them, bare or between name quotes, of words that hold no
colon and no opening bracket, and of values. Wherever two of these meet, one of them has a character
there that goes with nothing next to it, so a value is never glued to a name or a word, and two
brackets never come together that did not stand together in a text of the caller.
-/

namespace SqlCompose

/-! ### Marks -/

def charMarks (cs : List Char) : List (Option Char) := cs.map some

/-- The characters of a piece; a value is a mark of its own. -/
def Piece.marks : Piece → List (Option Char)
  | .text s => charMarks s.toList
  | .slot _ _ => [none]
  | .supply _ | .refusal _ => []

/-- Marks with texts in the places of the values. -/
def fillMarks : List (Option Char) → List String → List Char
  | [], _ => []
  | some c :: ms, texts => c :: fillMarks ms texts
  | none :: ms, text :: texts => text.toList ++ fillMarks ms texts
  | none :: ms, [] => fillMarks ms []

@[simp] lemma charMarks_append (cs cs' : List Char) :
    charMarks (cs ++ cs') = charMarks cs ++ charMarks cs' := List.map_append

lemma fillMarks_charMarks_append (cs : List Char) (ms : List (Option Char)) (texts : List String) :
    fillMarks (charMarks cs ++ ms) texts = cs ++ fillMarks ms texts := by
  induction cs with
  | nil => rfl
  | cons c cs ih => exact congrArg (c :: ·) ih

namespace Fragment

def marks (f : Fragment) : List (Option Char) := f.flatMap Piece.marks

@[simp] lemma marks_nil : marks [] = [] := rfl

@[simp] lemma marks_append (f g : Fragment) : marks (f ++ g) = marks f ++ marks g :=
  List.flatMap_append

@[simp] lemma marks_text_cons (s : String) (f : Fragment) :
    marks (.text s :: f) = charMarks s.toList ++ marks f := rfl

@[simp] lemma marks_slot_cons (hint : String) (v : Value) (f : Fragment) :
    marks (.slot hint v :: f) = none :: marks f := rfl

@[simp] lemma marks_supply_cons (params : Params) (f : Fragment) :
    marks (.supply params :: f) = marks f := rfl

@[simp] lemma marks_refusal_cons (e : QueryError) (f : Fragment) :
    marks (.refusal e :: f) = marks f := rfl

/-- Marks tell the text of a fragment that refuses nothing. -/
lemma toList_fill {f : Fragment} (h : f.error? = none) (texts : List String) :
    (f.fill texts).toList = fillMarks f.marks texts := by
  induction f generalizing texts with
  | nil => rfl
  | cons piece rest ih =>
    cases piece with
    | text s =>
      rw [fill, marks_text_cons, fillMarks_charMarks_append, String.toList_append, ih h]
    | slot hint v =>
      rw [marks_slot_cons]
      cases texts with
      | nil => exact ih h []
      | cons text texts => rw [fill, fillMarks, String.toList_append, ih h]
    | supply params => exact ih h texts
    | refusal e => simp at h

lemma marks_of_isBlank {f : Fragment} (h : f.isBlank = true) : f.marks = [] := by
  induction f with
  | nil => rfl
  | cons piece rest ih =>
    rw [isBlank, List.all_cons, Bool.and_eq_true] at h
    cases piece with
    | text s =>
      obtain rfl : s = "" := by simpa [Piece.isBlank] using h.1
      exact ih h.2
    | supply params => exact ih h.2
    | slot hint v => simp [Piece.isBlank] at h
    | refusal e => simp [Piece.isBlank] at h

end Fragment

/-! ### Woven marks -/

/-- Whether a character is neither a colon nor an opening bracket of pseudo-syntax. -/
def isInert (c : Char) : Bool := c != ':' && c != '[' && c != '\x7b'

/-- Whether a character can be part of a placeholder. -/
def isPlaceholderChar (c : Char) : Bool := c.isAlphanum || c == '_'

/-- Whether a character goes with nothing next to it. -/
def isLoose (c : Char) : Bool := !isPlaceholderChar c && c != '[' && c != '\x7b'

/-- Whether the first mark goes with nothing before it. -/
def startsLoose (ms : List (Option Char)) : Bool := ms.head?.all fun m => m.any isLoose

/-- Whether the last mark goes with nothing after it. -/
def endsLoose (ms : List (Option Char)) : Bool := ms.getLast?.all fun m => m.any isLoose

/-- Marks that are woven from texts in a dialect. -/
inductive Woven (d : Dialect) (texts : List String) : List (Option Char) → Prop
  | word {cs : List Char} (h : cs.all isInert = true) : Woven d texts (charMarks cs)
  | cast : Woven d texts (charMarks [':', ':'])
  | part {t : String} {cs : List Char} (ht : t ∈ texts) (h : cs <:+: t.toList) :
    Woven d texts (charMarks cs)
  | quoted {t : String} {cs : List Char} (ht : t ∈ texts) (h : cs <:+: t.toList)
    (hopen : d.nameQuotes.1 ∉ cs) :
    Woven d texts (charMarks (d.nameQuotes.1 :: (cs ++ [d.nameQuotes.2])))
  | value : Woven d texts [none]
  | glue {l r : List (Option Char)} (hl : Woven d texts l) (hr : Woven d texts r)
    (h : endsLoose l = true ∨ startsLoose r = true) : Woven d texts (l ++ r)
  | trim {l : List (Option Char)} {cs : List Char} (h : Woven d texts (l ++ charMarks cs))
    (hcs : cs.all isBlank = true) : Woven d texts l

variable {d : Dialect} {texts : List String} {l r : List (Option Char)} {t name : String}
  {k : List Char}

lemma startsLoose_word_append (hk : startsLoose (charMarks k) = true) (hne : k ≠ []) :
    startsLoose (charMarks k ++ r) = true := by
  obtain ⟨c, k, rfl⟩ := List.exists_cons_of_ne_nil hne
  exact hk

/-! ### Words between marks -/

/-- Whether characters are inert and go with nothing before them. -/
def isClosing (k : List Char) : Bool := k.all isInert && startsLoose (charMarks k)

/-- Whether characters are inert and go with nothing after them. -/
def isOpening (k : List Char) : Bool := k.all isInert && endsLoose (charMarks k)

/-- Whether characters are inert and go with nothing around them. -/
def isSeparator (k : List Char) : Bool := !k.isEmpty && isOpening k && isClosing k

lemma isInert_of_isNumberChar {c : Char} (h : isNumberChar c = true) : isInert c = true := by
  simp only [isNumberChar, Bool.or_eq_true, beq_iff_eq] at h
  rcases h with hdigit | rfl
  · simp only [isInert, Bool.and_eq_true, bne_iff_ne]
    refine ⟨⟨?_, ?_⟩, ?_⟩
    all_goals
      rintro rfl
      exact absurd hdigit (by decide)
  · decide

lemma all_isInert_toString (n : Nat) : (toString n).toList.all isInert = true :=
  List.all_eq_true.mpr fun _ hc => isInert_of_isNumberChar (isNumberChar_of_mem_toString hc)

namespace Woven

lemma nil : Woven d texts [] :=
  have hword : Woven d texts (charMarks []) := word rfl
  hword

lemma append_word (hl : Woven d texts l) (hk : isClosing k = true) :
    Woven d texts (l ++ charMarks k) := by
  rw [isClosing, Bool.and_eq_true] at hk
  exact hl.glue (word hk.1) (.inr hk.2)

lemma word_append (hk : isOpening k = true) (hr : Woven d texts r) :
    Woven d texts (charMarks k ++ r) := by
  rw [isOpening, Bool.and_eq_true] at hk
  exact (word hk.1).glue hr (.inl hk.2)

/-- Two texts with a word between them that goes with neither. -/
lemma between (hl : Woven d texts l) (hk : isSeparator k = true) (hr : Woven d texts r) :
    Woven d texts (l ++ (charMarks k ++ r)) := by
  simp only [isSeparator, isOpening, isClosing, Bool.and_eq_true, Bool.not_eq_true',
    List.isEmpty_eq_false_iff] at hk
  obtain ⟨⟨hne, hinert, hend⟩, -, hstart⟩ := hk
  rw [← List.append_assoc]
  refine (hl.glue (word hinert) (.inr hstart)).glue hr (.inl ?_)
  rwa [endsLoose, List.getLast?_append_of_ne_nil _ (by simpa [charMarks] using hne)]

end Woven

/-! ### Names -/

/-- Texts with a separator between neighbours. -/
lemma woven_textJoin {sep : String} (hsep : isSeparator sep.toList = true) {ss : List String}
    (h : ∀ s ∈ ss, Woven d texts (charMarks s.toList)) :
    Woven d texts (charMarks (Text.join sep ss).toList) := by
  unfold Text.join
  induction ss with
  | nil => exact .nil
  | cons s ss ih =>
    rw [List.forall_mem_cons] at h
    cases ss with
    | nil =>
      rw [String.intercalate_singleton]
      exact h.1
    | cons t ss =>
      rw [String.intercalate_cons_cons, String.toList_append, String.toList_append,
        charMarks_append, charMarks_append, List.append_assoc]
      exact h.1.between hsep (ih h.2)

/-- A quoted segment is woven from the text it was taken from. -/
lemma woven_quoteSegment (ht : t ∈ texts) (h : name.toList <:+: t.toList) :
    Woven d texts (charMarks (d.quoteSegment name).toList) := by
  unfold Dialect.quoteSegment
  dsimp only
  split
  · exact .part ht h
  · rename_i hopen
    rw [String.toList_ofList]
    exact .quoted ht h (by simpa using hopen)

lemma woven_quoteTable (ht : t ∈ texts) (h : name.toList <:+: t.toList) :
    Woven d texts (charMarks (d.quoteTable name).toList) := by
  unfold Dialect.quoteTable
  split
  · exact .part ht h
  · refine woven_textJoin (by decide) ?_
    intro s hs
    obtain ⟨segment, hsegment, rfl⟩ := List.mem_map.mp hs
    obtain ⟨piece, hpiece, rfl⟩ := List.mem_map.mp hsegment
    refine woven_quoteSegment ht ?_
    rw [String.toList_ofList]
    exact (Chars.infix_of_mem_split hpiece).trans h

lemma woven_quoteColumnSegment (ht : t ∈ texts) (h : name.toList <:+: t.toList) :
    Woven d texts (charMarks (d.quoteColumnSegment name).toList) := by
  unfold Dialect.quoteColumnSegment
  split
  · exact .part ht h
  · exact woven_quoteSegment ht h

/-- A quoted column is woven from its name, whatever stands in it. -/
lemma woven_quoteColumn (ht : name ∈ texts) :
    Woven d texts (charMarks (d.quoteColumn name).toList) := by
  unfold Dialect.quoteColumn
  split
  · exact .part ht List.infix_rfl
  · split
    · rename_i table column hsplit
      obtain ⟨⟨before, after⟩, hchars, heq⟩ := Option.map_eq_some_iff.mp hsplit
      obtain ⟨rfl, rfl⟩ := Prod.mk.inj heq
      have hname := Chars.splitLast_eq_some hchars
      rw [String.toList_append, String.toList_append, charMarks_append, charMarks_append,
        List.append_assoc]
      refine (woven_quoteTable ht ?_).between (by decide) (woven_quoteColumnSegment ht ?_)
      · rw [String.toList_ofList, hname, List.append_assoc]
        exact (List.prefix_append _ _).isInfix
      · rw [String.toList_ofList, hname]
        exact (List.suffix_append _ _).isInfix
    · exact woven_quoteColumnSegment ht List.infix_rfl

end SqlCompose
