import SqlCompose.Regex.CharSet

/-!
# Regular expressions

Expressions are kept in a normal form, which the functions `ofSet`, `repetition`, `concat` and
`alternation` build from parts in that form: neighbouring characters are one literal, a sequence and
a list of alternatives hang to the right and have two members at least, alternatives that are single
characters or sets are one set, and what all alternatives start with stands in front of them.
-/

namespace SqlCompose

/-- A condition on a place in a text. For the ones on words, word characters may be restricted to
the basic Latin block. -/
inductive Assertion
  | textStart
  | textEnd
  | lineStart
  | lineEnd
  /-- The start of a line, where lines end with a return, a line feed or both. -/
  | anyLineStart
  | anyLineEnd
  | wordEdge (ascii : Bool)
  | noWordEdge (ascii : Bool)
  | wordStart (ascii : Bool)
  | wordEnd (ascii : Bool)
  | noWordBefore (ascii : Bool)
  | noWordAfter (ascii : Bool)
  deriving DecidableEq

/-- A regular expression. -/
inductive Regex
  | epsilon
  | literal (s : List Char)
  | set (s : CharSet)
  | assert (a : Assertion)
  /-- A group that is remembered, told from the others by a number. -/
  | group (number : Nat) (r : Regex)
  /-- At least `least` times, and at most `most` times if that is given. -/
  | repeated (r : Regex) (least : Nat) (most : Option Nat) (greedy : Bool)
  | seq (r s : Regex)
  | alt (r s : Regex)
  deriving DecidableEq

namespace Regex

/-! ### Lengths -/

/-- The least number of characters that an expression matches; none if it matches nothing. -/
def minLength : Regex → Option Nat
  | .epsilon => some 0
  | .literal s => some s.length
  | .set s => if s.runs.isEmpty then none else some 1
  | .assert _ => some 0
  | .group _ r => r.minLength
  | .repeated r least _ _ => r.minLength.map (· * least)
  | .seq r s => do return (← r.minLength) + (← s.minLength)
  | .alt r s => do return min (← r.minLength) (← s.minLength)

/-- The greatest number of characters that an expression matches, if there is one. -/
def maxLength : Regex → Option Nat
  | .epsilon => some 0
  | .literal s => some s.length
  | .set s => if s.runs.isEmpty then none else some 1
  | .assert _ => some 0
  | .group _ r => r.maxLength
  | .repeated r _ most _ => do return (← r.maxLength) * (← most)
  | .seq r s => do return (← r.maxLength) + (← s.maxLength)
  | .alt r s => do return max (← r.maxLength) (← s.maxLength)

/-- Whether it is plain that an expression matches the empty text only. -/
def isEmptyOnly (r : Regex) : Bool := r.maxLength == some 0

/-! ### Building expressions -/

def ofSet (s : CharSet) : Regex :=
  match s.only? with
  | some code => .literal [Char.ofNat code]
  | none => .set s

/-- The repetition of an expression. What matches the empty text only need not be repeated. -/
def repetition (r : Regex) (least : Nat) (most : Option Nat) (greedy : Bool) : Regex :=
  let least := if r.isEmptyOnly then min least 1 else least
  let most := if r.isEmptyOnly then some (min (most.getD 1) 1) else most
  if least = 0 ∧ most = some 0 then .epsilon
  else if least = 1 ∧ most = some 1 then r
  else .repeated r least most greedy

def factors : Regex → List Regex
  | .epsilon => []
  | .seq r s => r :: s.factors
  | r => [r]

/-- Put an expression in front of some others; a literal joins the literal that it meets. -/
def prepend : Regex → List Regex → List Regex
  | .literal s, .literal t :: rest => .literal (s ++ t) :: rest
  | r, rest => r :: rest

/-- The sequence of some expressions. -/
def ofFactors : List Regex → Regex
  | [] => .epsilon
  | [r] => r
  | r :: rest => .seq r (ofFactors rest)

def concat (rs : List Regex) : Regex := ofFactors ((rs.flatMap factors).foldr prepend [])

def alternatives : Regex → List Regex
  | .alt r s => r :: s.alternatives
  | r => [r]

/-- The list of some alternatives; without any, nothing is matched. -/
def ofAlternatives : List Regex → Regex
  | [] => .set .empty
  | [r] => r
  | r :: rest => .alt r (ofAlternatives rest)

/-- The character that an expression is, if it is one. -/
def char? : Regex → Option Char
  | .literal [c] => some c
  | _ => none

/-- The set that an expression is, if it is one. -/
def set? : Regex → Option CharSet
  | .set s => some s
  | _ => none

/-- The set of the characters that some alternatives match, if they all are characters or all are
sets. -/
def alternativesSet? (rs : List Regex) : Option CharSet :=
  match rs.mapM char? with
  | some cs => some (.ofCodes (cs.map Char.toNat))
  | none => (rs.mapM set?).map fun sets => .ofRuns (sets.flatMap CharSet.runs)

/-- What two lists start with. -/
def commonStart : List Regex → List Regex → List Regex
  | r :: rs, s :: ss => if r = s then r :: commonStart rs ss else []
  | _, _ => []

def isSeq : Regex → Bool
  | .seq _ _ => true
  | _ => false

/-- What some alternatives all start with; only sequences are looked into. -/
def sharedStart : List Regex → List Regex
  | [] => []
  | r :: rest =>
    if (r :: rest).all isSeq then rest.foldl (fun start s => commonStart start s.factors) r.factors
    else []

/-- One of some alternatives; a shared start is looked for at most `depth` times. -/
def alternationWithin : (depth : Nat) → List Regex → Regex
  | 0, rs => ofAlternatives (rs.flatMap alternatives)
  | depth + 1, rs =>
    let rs := rs.flatMap alternatives
    match rs with
    | [] => .set .empty
    | [r] => r
    | rs =>
      match alternativesSet? rs with
      | some s => ofSet s
      | none =>
        match sharedStart rs with
        | [] => ofAlternatives rs
        | start =>
          let rests := rs.map fun r => concat (r.factors.drop start.length)
          concat (start ++ [alternationWithin depth rests])

def size : Regex → Nat
  | .group _ r => r.size + 1
  | .repeated r _ _ _ => r.size + 1
  | .seq r s => r.size + s.size + 1
  | .alt r s => r.size + s.size + 1
  | _ => 1

/-- One of some alternatives. -/
def alternation (rs : List Regex) : Regex :=
  alternationWithin (rs.foldl (fun n r => n + r.size) 1) rs

end Regex

end SqlCompose
