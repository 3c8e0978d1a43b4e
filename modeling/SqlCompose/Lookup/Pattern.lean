/-!
# Patterns

The text that a LIKE operator is given so that it looks for another text literally: the two wild
cards and the backslash are escaped by a backslash.
-/

namespace SqlCompose

/-- Where in its subject a text is looked for. -/
inductive Pattern
  | contains
  | startsWith
  | endsWith
  deriving DecidableEq

namespace Pattern

/-- A character of a pattern that stands for itself. -/
def escapeChar (c : Char) : List Char :=
  if c = '%' ∨ c = '_' ∨ c = '\\' then ['\\', c] else [c]

/-- A text as a pattern that only the text itself matches. -/
def escape (s : String) : String := .ofList (s.toList.flatMap escapeChar)

/-- The pattern that looks for a text. -/
def apply (p : Pattern) (s : String) : String :=
  match p with
  | .contains => "%" ++ escape s ++ "%"
  | .startsWith => escape s ++ "%"
  | .endsWith => "%" ++ escape s

end Pattern

end SqlCompose
