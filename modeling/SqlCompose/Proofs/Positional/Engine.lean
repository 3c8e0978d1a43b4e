import Mathlib
import SqlCompose.Proofs.Positional.Marked
import SqlCompose.Proofs.Reading.Token

/-!
# Names as the engine of a dialect reads them

The quotes of positional placeholders are those of all dialects together, and an engine knows only
some of them. What only another dialect takes for a quote, a square bracket or a backtick, hides the
names after it up to its closing quote: such a name stays as it is though the engine reads it as a
placeholder that has a value. Where no such quote is open, each name that has a value is replaced.
-/

namespace SqlCompose

/-- The quote that closes what a character opens, as the engine of a dialect reads a text in which
no backslash escapes. A closing quote that is written twice closes one text and opens the next. -/
def Dialect.quotes (d : Dialect) (c : Char) : Option Char := (Quote.opened? d c).map Quote.closing

namespace Dialect

open SqlToken

variable {d : Dialect} {c q : Char}

/-- The quotes of an engine are quotes of positional placeholders. -/
lemma closing?_of_quotes (h : d.quotes c = some q) : closing? c = some q := by
  rw [quotes, Quote.opened?] at h
  split_ifs at h with hsingle hdouble hname hbracket
  · cases h
    rw [hsingle]
    rfl
  · cases h
    rw [hdouble]
    rfl
  · cases h
    rw [hbracket]
    rfl
  · cases h
    cases d with
    | sqlite | mysql =>
      rw [hname]
      rfl
    | pgsql | cubrid => exact absurd hname hdouble
    | mssql => exact absurd hname hbracket
  · cases h

/-- What is a quote of positional placeholders only, is a bracket or a backtick. -/
lemma closing?_eq_none (h : d.quotes c = none) (hbracket : c ≠ '[') (hback : c ≠ '\x60') :
    closing? c = none := by
  rw [quotes, Option.map_eq_none_iff, Quote.opened?] at h
  split_ifs at h with hsingle hdouble hname
  unfold closing?
  split <;> trivial

lemma areQuotes (d : Dialect) : AreQuotes d.quotes :=
  areQuotes_closing.of_agree fun _ _ => closing?_of_quotes

end Dialect

namespace SqlToken

variable {quotes : Char → Option Char} {s : List Char} {t : SqlToken} {ts us vs : List SqlToken}

lemma Splits.tail (h : Splits quotes s (t :: ts)) : Splits quotes (ts.flatMap chars) ts := by
  cases h with
  | quoted _ _ hrest | cast hrest | name _ _ _ hrest | other _ _ hrest =>
    rwa [hrest.flatMap_chars]
  | unclosed => exact .nil

/-- What is left of a text after some of its tokens is split into the others. -/
lemma Splits.suffix (h : Splits quotes s (us ++ vs)) : Splits quotes (vs.flatMap chars) vs := by
  induction us generalizing s with
  | nil =>
    rw [List.nil_append] at h
    rwa [h.flatMap_chars]
  | cons t us ih => exact ih h.tail

/-- A name starts as names do, has only their characters, and goes on as far as it can. -/
lemma Splits.of_name {name : List Char} (h : Splits quotes s (us ++ .name name :: vs)) :
    s = us.flatMap chars ++ (':' :: name ++ vs.flatMap chars) ∧
      (∃ c cs, name = c :: cs ∧ isNameStart c = true ∧ ∀ d ∈ cs, isNameChar d = true) ∧
      ∀ d ∈ (vs.flatMap chars).head?, isNameChar d = false := by
  refine ⟨?_, ?_⟩
  · rw [← h.flatMap_chars, List.flatMap_append, List.flatMap_cons]
    rfl
  · have hname := h.suffix
    generalize (SqlToken.name name :: vs).flatMap chars = rest at hname
    cases hname with
    | name hstart hname hend hrest =>
      rw [hrest.flatMap_chars]
      exact ⟨⟨_, _, rfl, hstart, hname⟩, hend⟩

end SqlToken

namespace Built

open SqlToken

variable {b : Built} {us vs : List SqlToken} {name : List Char} {v : Value}

/-- No marker starts with a colon. -/
lemma withMarker_ne_withText (style : MarkerStyle) (params : Params)
    (before after text rest : List Char) (v : Value) :
    withMarker style params before after v ≠ withText style params before (':' :: text) rest := by
  intro h
  have hchars := congrArg (fun result => result.1.toList) h
  simp only [withMarker, withText, String.toList_ofList, List.append_assoc,
    List.append_cancel_left_eq] at hchars
  cases style <;> simp [MarkerStyle.marker] at hchars

/-- What PostgreSQL reads as a name, in a text without comments and the other forms of quotes, and
what has a value, is replaced by the next marker, and its value listed, exactly if nothing is open
before it for the quotes of positional placeholders. Else it stays as it is. Where no square bracket
opens and no backtick stands outside of PostgreSQL's quotes before it, nothing is open. -/
theorem toPositional_dollar_iff_closed
    (h : Splits Dialect.pgsql.quotes b.sql.toList (us ++ .name name :: vs))
    (hv : value? b.allParams (.name name) = some v) :
    let before := us.flatMap chars
    let after := vs.flatMap chars
    (b.toPositional .dollar = withMarker .dollar b.allParams before after v ↔
      ending closing? before = .closed) ∧
    (ending closing? before ≠ .closed → ∃ more rest, after = more ++ rest ∧
      b.toPositional .dollar =
        withText .dollar b.allParams before (':' :: name ++ more) rest) ∧
    (.other '[' ∉ us → .other '\x60' ∉ us → ending closing? before = .closed) := by
  intro before after
  obtain ⟨hsql, ⟨c, cs, rfl, hstart, hname⟩, hafter⟩ := h.of_name
  have hnames : ∀ d ∈ c :: cs, isNameChar d = true :=
    List.forall_mem_cons.mpr ⟨isNameChar_of_isNameStart hstart, hname⟩
  have hkept (hopen : ending closing? before ≠ .closed) : ∃ more rest, after = more ++ rest ∧
      b.toPositional .dollar =
        withText .dollar b.allParams before (':' :: c :: cs ++ more) rest := by
    cases hend : ending closing? before with
    | closed => exact absurd hend hopen
    | colon =>
      have hengine := h.ending_before_name Dialect.pgsql.areQuotes (fun _ _ hq => hq)
        (fun _ _ hnone => hnone)
      exact absurd hend (ending_ne_colon Dialect.pgsql.areQuotes areQuotes_closing hengine)
    | quoted q =>
      obtain ⟨opening, hopening⟩ := exists_of_ending hend
      obtain ⟨hcolon, hchar⟩ := areQuotes_closing.closing opening q hopening
      have hq : q ∉ ':' :: c :: cs := by
        intro hmem
        rcases List.mem_cons.mp hmem with rfl | hmem
        · exact hcolon rfl
        · rw [hnames q hmem] at hchar
          cases hchar
      exact toPositional_of_quoted hsql hend hq .dollar
  refine ⟨⟨fun hmarked => ?_, fun hend => ?_⟩, hkept, fun hbracket hback => ?_⟩
  · by_contra hopen
    obtain ⟨more, rest, -, htext⟩ := hkept hopen
    exact withMarker_ne_withText _ _ _ _ _ _ _ (hmarked.symm.trans htext)
  · exact toPositional_of_closed hsql hend hstart hname hafter hv .dollar
  · refine h.ending_before_name areQuotes_closing (fun _ _ => Dialect.closing?_of_quotes) ?_
    intro d hd hnone
    exact Dialect.closing?_eq_none hnone (fun he => hbracket (he ▸ hd))
      (fun he => hback (he ▸ hd))

/-- In an array constructor a name with a value stays as it is, and its value is not listed. -/
theorem toPositional_dollar_iff_closed_arrayElement :
    let b := Built.of "ARRAY[:tag]" (.ofList [("tag", .text "x")])
    let us := ['A', 'R', 'R', 'A', 'Y', '['].map SqlToken.other
    Splits Dialect.pgsql.quotes b.sql.toList (us ++ .name ['t', 'a', 'g'] :: [.other ']']) ∧
      value? b.allParams (.name ['t', 'a', 'g']) = some (.text "x") ∧
      b.toPositional .dollar ≠ withMarker .dollar b.allParams (us.flatMap chars) [']'] (.text "x") ∧
      b.toPositional .dollar = ("ARRAY[:tag]", []) := by
  intro b us
  have hbefore : ∀ c ∈ ['A', 'R', 'R', 'A', 'Y', '['],
      Dialect.pgsql.quotes c = none ∧ c ≠ ':' := by
    simp [Dialect.quotes, Quote.opened?, Dialect.nameQuotes]
  have hname : Splits Dialect.pgsql.quotes (':' :: 't' :: ['a', 'g'] ++ [']'])
      [.name ['t', 'a', 'g'], .other ']'] :=
    .name (by decide) (by simp; decide) (by simp; decide) (.other (by decide) (by simp) .nil)
  have hsql : b.sql.toList =
      ['A', 'R', 'R', 'A', 'Y', '['] ++ (':' :: 't' :: ['a', 'g'] ++ [']']) := by
    decide +kernel
  have hsplits : Splits Dialect.pgsql.quotes b.sql.toList
      (us ++ .name ['t', 'a', 'g'] :: [.other ']']) := hsql ▸ hname.append_others hbefore
  have hvalue : value? b.allParams (.name ['t', 'a', 'g']) = some (.text "x") := by
    decide +kernel
  have hopen : ending closing? (us.flatMap chars) ≠ .closed := by decide +kernel
  have hmarked := (toPositional_dollar_iff_closed hsplits hvalue).1
  exact ⟨hsplits, hvalue, fun h => hopen (hmarked.mp h), by decide +kernel⟩

end Built

end SqlCompose
