import SqlCompose.Json.Token
import SqlCompose.Number.Digits
import SqlCompose.Regex.CharSet
import SqlCompose.Regex.Flags

/-!
# Reading characters and sets of characters

A backslash gives a character a meaning of its own, or takes it away. Brackets enclose the members
of a set, which are characters, ranges, named sets and sets in brackets; two ampersands, hyphens or
tildes between members combine what stands before them with what follows. While only the basic
Latin block is looked at, sets have no other members, so none is the complement of another.
-/

namespace SqlCompose.Regex

/-! ### Characters -/

/-- The character of a code point in hexadecimal digits. -/
def hexChar? (digits : List Char) : Option Char := do
  let code ← digits.foldlM (fun n c => (Json.Token.hexValue? c).map (n * 16 + ·)) 0
  if digits.isEmpty then none
  else if code.isValidChar then some (Char.ofNat code) else none

/-- Read so many characters. -/
def exactly? (flags : Flags) : Nat → List Char → Option (List Char × List Char)
  | 0, s => some ([], s)
  | n + 1, c :: s => do
    let (cs, s) ← exactly? flags n (flags.skip s)
    some (c :: cs, s)
  | _ + 1, [] => none

/-- Read characters up to a closing brace. -/
def untilBrace? (flags : Flags) : (fuel : Nat) → List Char → Option (List Char × List Char)
  | fuel + 1, c :: s =>
    if c = '\x7d' then some ([], flags.skip s)
    else do
      let (cs, s) ← untilBrace? flags fuel (flags.skip s)
      some (c :: cs, s)
  | _, _ => none

/-- Read a code point of a given number of hexadecimal digits, or of any number in braces. -/
def codePoint? (flags : Flags) (n : Nat) (s : List Char) : Option (Char × List Char) := do
  match flags.skip s with
  | '\x7b' :: rest =>
    let (digits, rest) ← untilBrace? flags s.length (flags.skip rest)
    some (← hexChar? digits, rest)
  | s =>
    let (digits, rest) ← exactly? flags n s
    let c ← hexChar? digits
    if n = 2 && !flags.unicode && 128 ≤ c.toNat then none else some (c, rest)

/-- Read a single character after a backslash. -/
def escapedChar? (flags : Flags) : List Char → Option (Char × List Char)
  | 'n' :: rest => some ('\n', rest)
  | 't' :: rest => some ('\t', rest)
  | 'r' :: rest => some ('\r', rest)
  | 'f' :: rest => some ('\x0c', rest)
  | 'v' :: rest => some ('\x0b', rest)
  | 'a' :: rest => some ('\x07', rest)
  | 'x' :: rest => codePoint? flags 2 rest
  | 'u' :: rest => codePoint? flags 4 rest
  | 'U' :: rest => codePoint? flags 8 rest
  | c :: rest =>
    if c.toNat < 128 ∧ !c.isAlphanum ∧ c ≠ '<' ∧ c ≠ '>' then some (c, rest)
    else none
  | [] => none

/-! ### Sets -/

/-- The complement of a set, if one may be taken. -/
def compl? (flags : Flags) (s : CharSet) : Option CharSet :=
  if flags.unicode then some s.compl else none

/-- A set and what differs from its characters in letter case only, if case is to be ignored. -/
def foldedSet (flags : Flags) (s : CharSet) : CharSet :=
  if flags.ignoreCase then if flags.unicode then s.fold else s.foldAscii else s

/-- Whether a letter after a backslash stands for a set. -/
def namesSet (c : Char) : Bool := c ∈ ['d', 'D', 'w', 'W', 's', 'S']

/-- The set of a letter after a backslash; a capital letter stands for the complement. -/
def letterSet? (flags : Flags) (c : Char) : Option CharSet :=
  match c with
  | 'd' => some (if flags.unicode then .digit else .asciiDigit)
  | 'w' => some (if flags.unicode then .word else .asciiWord)
  | 's' => some (if flags.unicode then .blank else .asciiBlank)
  | 'D' => compl? flags .digit
  | 'W' => compl? flags .word
  | 'S' => compl? flags .blank
  | _ => none

def namedSet? (name : String) : Option CharSet :=
  let of (bounds : List (Char × Char)) : Option CharSet :=
    some (.ofRuns (bounds.map fun (first, last) => (first.toNat, last.toNat)))
  match name with
  | "alnum" => of [('0', '9'), ('A', 'Z'), ('a', 'z')]
  | "alpha" => of [('A', 'Z'), ('a', 'z')]
  | "ascii" => of [('\x00', '\x7f')]
  | "blank" => of [('\t', '\t'), (' ', ' ')]
  | "cntrl" => of [('\x00', '\x1f'), ('\x7f', '\x7f')]
  | "digit" => of [('0', '9')]
  | "graph" => of [('!', '~')]
  | "lower" => of [('a', 'z')]
  | "print" => of [(' ', '~')]
  | "punct" => of [('!', '/'), (':', '@'), ('[', '\x60'), ('\x7b', '~')]
  | "space" => of [('\t', '\r'), (' ', ' ')]
  | "upper" => of [('A', 'Z')]
  | "word" => of [('0', '9'), ('A', 'Z'), ('_', '_'), ('a', 'z')]
  | "xdigit" => of [('0', '9'), ('A', 'F'), ('a', 'f')]
  | _ => none

/-- Read a named set after its opening bracket: the set before case is ignored, whether its
complement is meant, and the rest. -/
def named? : List Char → Option (CharSet × Bool × List Char)
  | ':' :: rest =>
    let (negated, rest) :=
      match rest with
      | '^' :: rest => (true, rest)
      | rest => (false, rest)
    match rest.span (· != ':') with
    | (name, ':' :: ']' :: rest) => (namedSet? (.ofList name)).map (·, negated, rest)
    | _ => none
  | _ => none

/-! ### Brackets -/

/-- A set that was read, and how deep brackets and combinations are nested in its text. -/
structure Members where
  chars : CharSet
  depth : Nat

namespace Members

/-- The union of some members; several of them are nested deeper by one. -/
def union : List Members → Members
  | [] => ⟨.empty, 0⟩
  | [m] => m
  | ms => ⟨.ofRuns (ms.flatMap fun m => m.chars.runs), (ms.map depth).foldl max 0 + 1⟩

end Members

/-- Read a member of a set: a character or the letter of a set. -/
def member? (flags : Flags) : List Char → Option ((Char ⊕ CharSet) × List Char)
  | '\\' :: c :: rest =>
    if namesSet c then (letterSet? flags c).map fun s => (.inr s, rest)
    else (escapedChar? flags (c :: rest)).map fun (c, rest) => (.inl c, rest)
  | ['\\'] => none
  | c :: rest => some (.inl c, rest)
  | [] => none

/-- Whether a hyphen at the start of a text joins the ends of a range. -/
def joinsRange (flags : Flags) : List Char → Bool
  | '-' :: rest =>
    match flags.skip rest with
    | ']' :: _ => false
    | '-' :: _ => false
    | rest => !rest.isEmpty
  | _ => false

/-- The characters from one to another, if they may be named. -/
def range? (flags : Flags) (first last : Char) : Option CharSet :=
  if last < first then none
  else if !flags.unicode && 128 ≤ last.toNat then none
  else some (.range first last)

/-- Read a member of a set or a range. -/
def memberOrRange? (flags : Flags) (s : List Char) : Option (CharSet × List Char) := do
  let (first, rest) ← member? flags s
  let rest := flags.skip rest
  match first, joinsRange flags rest with
  | .inl first, true =>
    let (last, rest) ← member? flags (flags.skip (rest.drop 1))
    match last with
    | .inl last => some (← range? flags first last, rest)
    | .inr _ => none
  | .inr _, true => none
  | .inl c, false => some (← range? flags c c, rest)
  | .inr chars, false => some (chars, rest)

inductive Combination
  | inter
  | diff
  | symmDiff

def Combination.apply (s t : CharSet) : Combination → CharSet
  | .inter => s.inter t
  | .diff => s.diff t
  | .symmDiff => s.symmDiff t

/-- Combine members with what stands before them. -/
def combine (flags : Flags) (before : Option (Members × Combination)) (found : List Members) :
    Members :=
  let found := Members.union found
  match before with
  | some (m, how) =>
    ⟨how.apply (foldedSet flags m.chars) (foldedSet flags found.chars), max m.depth found.depth + 1⟩
  | none => found

/-- Read the hyphens at the start of a set, which stand for themselves, and so does a closing
bracket that is the first member. -/
def classStart (flags : Flags) : (fuel : Nat) → List Members → List Char → List Members × List Char
  | fuel + 1, found, '-' :: rest =>
    classStart flags fuel (⟨.single '-', 0⟩ :: found) (flags.skip rest)
  | _, [], ']' :: rest => ([⟨.single ']', 0⟩], flags.skip rest)
  | _, found, rest => (found, rest)

mutual
/-- Read a set after its opening bracket. -/
def class? (flags : Flags) : (fuel : Nat) → List Char → Option (Members × List Char)
  | 0, _ => none
  | fuel + 1, s => do
    let (negated, rest) :=
      match flags.skip s with
      | '^' :: rest => (true, flags.skip rest)
      | rest => (false, rest)
    let (found, rest) := classStart flags rest.length [] rest
    let (members, rest) ← members? flags fuel none found rest
    let chars := foldedSet flags members.chars
    some (⟨← if negated then compl? flags chars else some chars, members.depth + 1⟩, rest)

/-- Read the members of a set up to its closing bracket. -/
def members? (flags : Flags) : (fuel : Nat) → Option (Members × Combination) → List Members →
    List Char → Option (Members × List Char)
  | 0, _, _, _ => none
  | fuel + 1, before, found, s =>
    match flags.skip s with
    | ']' :: rest => some (combine flags before found, rest)
    | '&' :: '&' :: rest =>
      members? flags fuel (some (combine flags before found, .inter)) [] rest
    | '-' :: '-' :: rest =>
      members? flags fuel (some (combine flags before found, .diff)) [] rest
    | '~' :: '~' :: rest =>
      members? flags fuel (some (combine flags before found, .symmDiff)) [] rest
    | '[' :: rest =>
      match named? rest with
      | some (chars, negated, rest) => do
        let chars := foldedSet flags chars
        let chars ← if negated then compl? flags chars else some chars
        members? flags fuel before (⟨chars, 0⟩ :: found) rest
      | none => do
        let (m, rest) ← class? flags fuel rest
        members? flags fuel before (m :: found) rest
    | s => do
      let (chars, rest) ← memberOrRange? flags s
      members? flags fuel before (⟨chars, 0⟩ :: found) rest
end

end SqlCompose.Regex
