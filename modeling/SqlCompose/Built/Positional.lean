import SqlCompose.Built

/-!
# Positional placeholders

The named placeholders of a statement are replaced by markers, and their values are listed in the
order of the markers. Text between quotes or in square brackets, the cast `::` and names without a
value stay as they are.
-/

namespace SqlCompose

/-- How a positional placeholder is written. -/
inductive MarkerStyle
  | question
  /-- A dollar sign and the number of the value, counted from one. -/
  | dollar
  deriving DecidableEq

/-- A part of a statement text as far as placeholders are concerned. -/
inductive SqlToken
  /-- From an opening quote to the closing one, or to the end of the text. -/
  | quoted (chars : List Char)
  | cast
  /-- A colon and the name after it; the name is given without the colon. -/
  | name (chars : List Char)
  | other (c : Char)
  deriving DecidableEq

namespace SqlToken

def chars : SqlToken → List Char
  | .quoted chars => chars
  | .cast => [':', ':']
  | .name chars => ':' :: chars
  | .other c => [c]

/-- The quote that closes what a character opens. -/
def closing? : Char → Option Char
  | '\'' => some '\''
  | '"' => some '"'
  | '\x60' => some '\x60'
  | '[' => some ']'
  | _ => none

def isNameStart (c : Char) : Bool := c.isAlpha || c == '_'

def isNameChar (c : Char) : Bool := c.isAlphanum || c == '_'

/-- The text up to and with the first `closing`, or all of it, and the rest. -/
def takeThrough (closing : Char) : List Char → List Char × List Char
  | [] => ([], [])
  | c :: rest =>
    if c = closing then ([c], rest)
    else
      let (inside, rest) := takeThrough closing rest
      (c :: inside, rest)

/-- The rest is no longer than the text. -/
theorem length_takeThrough_snd (closing : Char) (s : List Char) :
    (takeThrough closing s).2.length ≤ s.length := by
  induction s with
  | nil => simp [takeThrough]
  | cons c rest ih =>
    simp only [takeThrough]
    split
    · simp
    · simp; omega

/-- The token at the start of a text, and the rest. -/
def first (c : Char) (rest : List Char) : SqlToken × List Char :=
  match closing? c with
  | some closing =>
    let (inside, rest) := takeThrough closing rest
    (.quoted (c :: inside), rest)
  | none =>
    if c = ':' then
      match rest with
      | ':' :: rest => (.cast, rest)
      | d :: more =>
        if isNameStart d then (.name ((d :: more).takeWhile isNameChar),
          (d :: more).dropWhile isNameChar)
        else (.other c, rest)
      | [] => (.other c, rest)
    else (.other c, rest)

/-- A token takes at least one character. -/
theorem length_first_snd (c : Char) (rest : List Char) : (first c rest).2.length ≤ rest.length := by
  have drop (p : Char → Bool) (s : List Char) : (s.dropWhile p).length ≤ s.length :=
    (List.dropWhile_sublist p).length_le
  unfold first
  split
  · exact length_takeThrough_snd _ _
  · split
    · split
      · simp
      · split
        · exact drop _ _
        · simp
      · simp
    · simp

/-- The tokens of a text. -/
def scan : List Char → List SqlToken
  | [] => []
  | c :: rest => (first c rest).1 :: scan (first c rest).2
termination_by s => s.length
decreasing_by
  have := length_first_snd c rest
  simp; omega

end SqlToken

/-- The marker of the value with this number. -/
def MarkerStyle.marker (style : MarkerStyle) (n : Nat) : List Char :=
  match style with
  | .question => ['?']
  | .dollar => '$' :: (toString n).toList

namespace Built

/-- Replace the names among some tokens that have a value, where `n` values stand before them. -/
def placeMarkers (style : MarkerStyle) (params : Params) (n : Nat) :
    List SqlToken → List Char × List Value
  | [] => ([], [])
  | token :: tokens =>
    let value? := match token with
      | .name chars => params.get? (":" ++ .ofList chars)
      | _ => none
    match value? with
    | some v =>
      let (text, values) := placeMarkers style params (n + 1) tokens
      (style.marker (n + 1) ++ text, v :: values)
    | none =>
      let (text, values) := placeMarkers style params n tokens
      (token.chars ++ text, values)

/-- The statement with markers for its placeholders, and their values in the order of the text. -/
def toPositional (b : Built) (style : MarkerStyle) : String × List Value :=
  let (text, values) := placeMarkers style b.allParams 0 (SqlToken.scan b.sql.toList)
  (.ofList text, values)

end Built

end SqlCompose
