import SqlCompose.Json.Token

/-!
# Reading Json

A value is read from tokens; arrays and objects may be nested to a given depth and no deeper.
-/

namespace SqlCompose.Json

mutual
def value? : (fuel depth : Nat) → List Token → Option (Json × List Token)
  | 0, _, _ => none
  | fuel + 1, depth, tokens =>
    match depth, tokens with
    | _, .null :: rest => some (.null, rest)
    | _, .bool b :: rest => some (.bool b, rest)
    | _, .number n :: rest => some (.number n, rest)
    | _, .string s :: rest => some (.string s, rest)
    | _ + 1, .openBracket :: .closeBracket :: rest => some (.array [], rest)
    | depth + 1, .openBracket :: rest =>
      (items? fuel depth rest).map fun (items, rest) => (.array items, rest)
    | _ + 1, .openBrace :: .closeBrace :: rest => some (.object [], rest)
    | depth + 1, .openBrace :: rest =>
      (members? fuel depth rest).map fun (members, rest) => (.object (membersOfList members), rest)
    | _, _ => none

def items? : (fuel depth : Nat) → List Token → Option (List Json × List Token)
  | 0, _, _ => none
  | fuel + 1, depth, tokens =>
    match value? fuel depth tokens with
    | some (item, .comma :: rest) =>
      (items? fuel depth rest).map fun (items, rest) => (item :: items, rest)
    | some (item, .closeBracket :: rest) => some ([item], rest)
    | _ => none

def members? : (fuel depth : Nat) → List Token → Option (List (String × Json) × List Token)
  | 0, _, _ => none
  | fuel + 1, depth, tokens =>
    match tokens with
    | .string name :: .colon :: rest =>
      match value? fuel depth rest with
      | some (value, .comma :: rest) =>
        (members? fuel depth rest).map fun (members, rest) => ((name, value) :: members, rest)
      | some (value, .closeBrace :: rest) => some ([(name, value)], rest)
      | _ => none
    | _ => none
end

/-- Read a document whose arrays and objects are nested at most `depth` deep. -/
def parse? (depth : Nat) (s : String) : Option Json := do
  let tokens ← Token.list? s
  match value? (2 * tokens.length) depth tokens with
  | some (value, []) => some value
  | _ => none

end SqlCompose.Json
