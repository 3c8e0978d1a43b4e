import SqlCompose.Error

/-!
# Environment references

A text may refer to variables of the environment as `${NAME}`. References are resolved in one pass
from left to right, and nothing in the value of a variable is a reference. The first reference that
cannot be resolved is an error.
-/

namespace SqlCompose

/-- The values of the variables that are set. A value that is no text counts as not set. -/
abbrev Environment := String → Option String

/-- Why a reference is not resolved. -/
inductive ReferenceError
  /-- The text ends inside a reference. -/
  | unterminated (key : String)
  | emptyKey
  | unset (key : String)
  deriving DecidableEq

namespace ReferenceError

def message : ReferenceError → String
  | .unterminated key => "unterminated env var reference: $\x7b" ++ key
  | .emptyKey => "invalid env var reference: $\x7b\x7d"
  | .unset key => "missing env var for config expansion: " ++ key

end ReferenceError

namespace Environment

/-- The value that a reference stands for. -/
def resolve (env : Environment) (key : List Char) : Except ReferenceError (List Char) :=
  if key.isEmpty then .error .emptyKey
  else match env (.ofList key) with
    | some value => .ok value.toList
    | none => .error (.unset (.ofList key))

mutual
/-- Resolve the references of a text. -/
def expandChars (env : Environment) : List Char → Except ReferenceError (List Char)
  | [] => .ok []
  | '$' :: '\x7b' :: rest => expandKey env [] rest
  | c :: rest => (expandChars env rest).map (c :: ·)

/-- Resolve the references of a text that starts inside a reference; the part of its key that was
read is given back to front. -/
def expandKey (env : Environment) (key : List Char) : List Char → Except ReferenceError (List Char)
  | [] => .error (.unterminated (.ofList key.reverse))
  | c :: rest =>
    if c = '\x7d' then
      match env.resolve key.reverse with
      | .ok value => (expandChars env rest).map (value ++ ·)
      | .error e => .error e
    else expandKey env (c :: key) rest
end

def expand (env : Environment) (s : String) : Outcome String :=
  match expandChars env s.toList with
  | .ok chars => .ok (.ofList chars)
  | .error e => .error (.config e.message)

end Environment

end SqlCompose
