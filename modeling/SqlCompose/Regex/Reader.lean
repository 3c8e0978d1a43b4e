import SqlCompose.Error
import SqlCompose.Regex.Automaton
import SqlCompose.Regex.Class
import SqlCompose.Regex.Memory

/-!
# Reading regular expressions

Expressions are built from characters, sets in brackets, groups in parentheses, alternatives and
repetitions. A repetition has something to repeat, its bounds are in order, brackets and parentheses
are closed, and no two groups have the same name. Looking around and referring back are not part of
the language. An expression must not be nested too deep, nor take too much memory.
-/

namespace SqlCompose.Regex

/-! ### Parts -/

/-- A part of a pattern that was read: what it means, how deep its text is nested, the names of its
groups, and whether it may be repeated. -/
structure Part where
  regex : Regex
  depth : Nat
  names : List (List Char)
  isRepeatable : Bool

namespace Part

/-- A part that is not built from others. -/
def leaf (r : Regex) : Part := ⟨r, 0, [], true⟩

/-- A part that matches the empty text and may not be repeated. -/
def nothing : Part := ⟨.epsilon, 0, [], false⟩

/-- A part around several others, with the meaning that they have together. -/
def around (parts : List Part) (r : Regex) : Part :=
  ⟨r, (parts.map depth).foldl max 0 + 1, parts.flatMap names, true⟩

def concat : List Part → Part
  | [] => nothing
  | [p] => p
  | ps => around ps (.concat (ps.map regex))

def alternation : List Part → Part
  | [p] => p
  | ps => around ps (.alternation (ps.map regex))

/-- The repetition of a part. -/
def repeated? (p : Part) (least : Nat) (most : Option Nat) (greedy : Bool) : Option Part :=
  if p.isRepeatable then some (around [p] (.repetition p.regex least most greedy)) else none

end Part

/-! ### Repetitions -/

def digits (flags : Flags) : (fuel : Nat) → List Char → List Char × List Char
  | fuel + 1, c :: rest =>
    if c.isDigit then
      let (more, rest) := digits flags fuel (flags.skip rest)
      (c :: more, rest)
    else ([], c :: rest)
  | _, s => ([], s)

/-- The largest bound of a repetition. -/
def boundLimit : Nat := 0xFFFFFFFF

/-- Read a bound of a repetition with the blanks around it. -/
def bound? (flags : Flags) (s : List Char) : Option (Nat × List Char) :=
  let s := Chars.trimStart s
  let (digits, rest) := digits flags s.length s
  if digits.isEmpty ∨ boundLimit < Digits.value digits then none
  else some (Digits.value digits, flags.skip (Chars.trimStart rest))

/-- Read the bounds of a repetition after the opening brace. -/
def bounds? (flags : Flags) (s : List Char) : Option (Nat × Option Nat × List Char) := do
  let (least, rest) ← bound? flags (flags.skip s)
  match rest with
  | '\x7d' :: rest => some (least, some least, flags.skip rest)
  | ',' :: rest =>
    match flags.skip rest with
    | '\x7d' :: rest => some (least, none, flags.skip rest)
    | rest => do
      let (most, rest) ← bound? flags rest
      let '\x7d' :: rest := rest | none
      if least ≤ most then some (least, some most, flags.skip rest) else none
  | _ => none

/-- Read the mark of a repetition that is not greedy; also whether it is greedy. -/
def greed (flags : Flags) : List Char → Bool × List Char
  | '?' :: rest => (flags.swapGreed, rest)
  | rest => (!flags.swapGreed, rest)

/-- Read the repetitions of a part. -/
def repetitions? (flags : Flags) (p : Part) : (fuel : Nat) → List Char → Option (Part × List Char)
  | 0, s => some (p, s)
  | fuel + 1, s =>
    let repeated (least : Nat) (most : Option Nat) (rest : List Char) :
        Option (Part × List Char) := do
      let (greedy, rest) := greed flags rest
      repetitions? flags (← p.repeated? least most greedy) fuel rest
    match flags.skip s with
    | '*' :: rest => repeated 0 none rest
    | '+' :: rest => repeated 1 none rest
    | '?' :: rest => repeated 0 (some 1) rest
    | '\x7b' :: rest => do
      let (least, most, rest) ← bounds? flags rest
      repeated least most rest
    | s => some (p, s)

/-! ### Groups -/

/-- Read the name of a group and the closing bracket after it. -/
def groupName? (s : List Char) : Option (List Char × List Char) :=
  match s.span (· != '>') with
  | (c :: name, '>' :: rest) =>
    let starts := c == '_' || (isWordChar c && !isScriptDigit c)
    if starts && name.all (fun c => isWordChar c || c == '.' || c == '[' || c == ']') then
      some (c :: name, rest)
    else none
  | _ => none

/-- Read a condition on words in braces. Braces that do not start with a letter or a hyphen are the
bounds of a repetition. -/
def wordAssertion? (flags : Flags) (s : List Char) : Option (Option Assertion × List Char) := do
  let ascii := !flags.unicode
  match s with
  | '\x7b' :: inner =>
    match flags.skip inner with
    | [] => none
    | c :: _ =>
      if c.isAlpha || c == '-' then
        let (name, rest) ← untilBrace? flags inner.length (flags.skip inner)
        match String.ofList name with
        | "start" => some (some (.wordStart ascii), rest)
        | "end" => some (some (.wordEnd ascii), rest)
        | "start-half" => some (some (.noWordBefore ascii), rest)
        | "end-half" => some (some (.noWordAfter ascii), rest)
        | _ => none
      else some (none, s)
  | s => some (none, s)

/-- The assertion or set that a character after a backslash stands for, or the character. -/
def escape? (flags : Flags) : List Char → Option (Regex × List Char)
  | 'b' :: rest => do
    let (named, rest) ← wordAssertion? flags rest
    some (.assert (named.getD (.wordEdge !flags.unicode)), rest)
  | 'B' :: rest => some (.assert (.noWordEdge !flags.unicode), rest)
  | '<' :: rest => some (.assert (.wordStart !flags.unicode), rest)
  | '>' :: rest => some (.assert (.wordEnd !flags.unicode), rest)
  | 'A' :: rest => some (.assert .textStart, rest)
  | 'z' :: rest => some (.assert .textEnd, rest)
  | c :: rest =>
    if namesSet c then (letterSet? flags c).map fun s => (ofSet s, rest)
    else do
      let (c, rest) ← escapedChar? flags (c :: rest)
      some (ofSet (foldedSet flags (.single c)), rest)
  | [] => none

/-- Any character, or any but the ends of lines. -/
def anyChar? (flags : Flags) : Option Regex :=
  let except : CharSet :=
    if flags.dotAll then .empty
    else if flags.returns then .ofCodes [10, 13]
    else .single '\n'
  (compl? flags except).map ofSet

/-- The start of the text, or of a line. -/
def startAssertion (flags : Flags) : Assertion :=
  if flags.multiLine then if flags.returns then .anyLineStart else .lineStart else .textStart

/-- The end of the text, or of a line. -/
def endAssertion (flags : Flags) : Assertion :=
  if flags.multiLine then if flags.returns then .anyLineEnd else .lineEnd else .textEnd

/-- Read a part that has no other part in it. -/
def leaf? (flags : Flags) : List Char → Option (Part × List Char)
  | '[' :: rest => do
    let (members, rest) ← class? flags (2 * rest.length + 2) rest
    some (⟨ofSet members.chars, members.depth, [], true⟩, rest)
  | '.' :: rest => do some (.leaf (← anyChar? flags), rest)
  | '^' :: rest => some (.leaf (.assert (startAssertion flags)), rest)
  | '$' :: rest => some (.leaf (.assert (endAssertion flags)), rest)
  | '\\' :: rest => do
    let (r, rest) ← escape? flags rest
    some (.leaf r, rest)
  | c :: rest =>
    if c ∈ ['*', '+', '?', '\x7b', '(', ')', '|'] then none
    else some (.leaf (ofSet (foldedSet flags (.single c))), rest)
  | [] => none

mutual
/-- Read alternatives up to a closing parenthesis or the end. The last ones read before are given,
the latest first. -/
def alternatives? (fuel : Nat) (flags : Flags) (before : List Part) (s : List Char) :
    Option (Part × List Char) :=
  match fuel with
  | 0 => none
  | fuel + 1 => do
    let (part, flags, rest) ← sequence? fuel flags [] s
    match rest with
    | '|' :: rest => alternatives? fuel flags (part :: before) rest
    | rest => some (.alternation (part :: before).reverse, rest)

/-- Read parts one after the other; also the flags after them. The last ones read before are given,
the latest first. -/
def sequence? (fuel : Nat) (flags : Flags) (before : List Part) (s : List Char) :
    Option (Part × Flags × List Char) :=
  match fuel with
  | 0 => none
  | fuel + 1 => do
    let s := flags.skip s
    match s with
    | [] => some (.concat before.reverse, flags, s)
    | '|' :: _ => some (.concat before.reverse, flags, s)
    | ')' :: _ => some (.concat before.reverse, flags, s)
    | '(' :: rest =>
      let (inside, rest) ← group? fuel flags (flags.skip rest)
      match inside with
      | .inl flags => sequence? fuel flags (.nothing :: before) rest
      | .inr part =>
        let (part, rest) ← repetitions? flags part rest.length rest
        sequence? fuel flags (part :: before) rest
    | s =>
      let (part, rest) ← leaf? flags s
      let (part, rest) ← repetitions? flags part rest.length rest
      sequence? fuel flags (part :: before) rest

/-- Read what follows an opening parenthesis: flags for what comes after the closing one, or a
group. -/
def group? (fuel : Nat) (flags : Flags) (s : List Char) : Option ((Flags ⊕ Part) × List Char) :=
  match fuel with
  | 0 => none
  | fuel + 1 => do
    let remember (name : List (List Char)) (s : List Char) :
        Option ((Flags ⊕ Part) × List Char) := do
      let (part, rest) ← close? fuel flags s
      let group := Part.around [part] (.group s.length part.regex)
      some (.inr { group with names := name ++ group.names }, rest)
    match s with
    | '?' :: 'P' :: '<' :: rest =>
      let (name, rest) ← groupName? rest
      remember [name] rest
    | '?' :: '<' :: rest =>
      let (name, rest) ← groupName? rest
      remember [name] rest
    | '?' :: rest =>
      let (inside, closing, rest) ← flags.read? rest
      if closing = ')' then some (.inl inside, rest)
      else
        let (part, rest) ← close? fuel inside rest
        some (.inr (.around [part] part.regex), rest)
    | rest => remember [] rest

/-- Read the inside of a group and its closing parenthesis. -/
def close? (fuel : Nat) (flags : Flags) (s : List Char) : Option (Part × List Char) :=
  match fuel with
  | 0 => none
  | fuel + 1 => do
    let (part, rest) ← alternatives? fuel flags [] s
    match rest with
    | ')' :: rest => some (part, rest)
    | _ => none
end

/-- The deepest nesting of a pattern. -/
def depthLimit : Nat := 250

def parse? (s : String) : Option Regex := do
  let (part, rest) ← alternatives? (4 * s.length + 4) .standard [] s.toList
  if rest.isEmpty && part.depth ≤ depthLimit && part.names.eraseDups.length == part.names.length &&
      part.regex.isAllowed then
    some part.regex
  else none

/-- Whether a text has a place that a pattern matches. -/
def isMatch (pattern s : String) : Outcome Bool :=
  match parse? pattern with
  | some r => .ok (r.search s)
  | none => .error .unreadablePattern

end SqlCompose.Regex
