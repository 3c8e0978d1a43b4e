import SqlCompose.Text.Blank
import SqlCompose.Params
import SqlCompose.Error

/-!
# Fragments

A fragment is a part of a statement before its values are placed: text, slots for values, the
parameters that verbatim parts bring with them, and refusals where something cannot be written. The
pieces stand in the order in which they are written, so a fragment does not depend on how its values
will be placed; fragments are put together by appending them.
-/

namespace SqlCompose

/-- A piece of a statement. -/
inductive Piece
  | text (s : String)
  /-- The place of a value; the hint is the name its placeholder is made from. -/
  | slot (hint : String) (value : Value)
  /-- Parameters that the statement takes over; they have no text. -/
  | supply (params : Params)
  /-- Nothing after this piece is written. -/
  | refusal (e : QueryError)
  deriving DecidableEq

/-- A part of a statement. -/
abbrev Fragment := List Piece

namespace Piece

/-- Whether a piece has no text and refuses nothing. -/
def isBlank : Piece → Bool
  | .text s => s.isEmpty
  | .supply _ => true
  | _ => false

def error? : Piece → Option QueryError
  | .refusal e => some e
  | _ => none

end Piece

namespace Fragment

/-- Whether a fragment has no text and refuses nothing. Any value has a text. -/
def isBlank (f : Fragment) : Bool := f.all Piece.isBlank

/-- The first error of a fragment. -/
def error? (f : Fragment) : Option QueryError := f.findSome? Piece.error?

/-- A fragment in parentheses. -/
def bracket (f : Fragment) : Fragment := .text "(" :: (f ++ [.text ")"])

def after (keyword : String) (f : Fragment) : Fragment := .text (keyword ++ " ") :: f

def join (sep : String) (fs : List Fragment) : Fragment := List.intercalate [.text sep] fs

/-- Fragments with a separator before each one that has text, the first of those excepted unless
something stands before them. What has no text still supplies its parameters. -/
def joinFrom (sep : String) (started : Bool) : List Fragment → Fragment
  | [] => []
  | f :: fs =>
    if f.isBlank then f ++ joinFrom sep started fs
    else (if started then [.text sep] else []) ++ f ++ joinFrom sep true fs

/-- Fragments with a separator between those that have text. -/
def joinNonBlank (sep : String) (fs : List Fragment) : Fragment := joinFrom sep false fs

/-- Drop the blanks at the end of a fragment given back to front. -/
def trimReversed : Fragment → Fragment
  | [] => []
  | .text s :: rest =>
    let kept := Text.trimEnd s
    if kept.isEmpty then trimReversed rest else .text kept :: rest
  | .supply params :: rest => .supply params :: trimReversed rest
  | rest => rest

/-- Drop the blanks at the end of a fragment; the text of a value does not end with one. -/
def trimEnd (f : Fragment) : Fragment := (trimReversed f.reverse).reverse

@[simp] theorem isBlank_append (f g : Fragment) :
    isBlank (f ++ g) = (isBlank f && isBlank g) := by simp [isBlank]

@[simp] theorem error?_append (f g : Fragment) :
    error? (f ++ g) = (error? f).or (error? g) := by
  simp [error?, List.findSome?_append]

end Fragment

end SqlCompose
