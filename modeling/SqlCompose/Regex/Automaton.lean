import SqlCompose.Regex.Basic

/-!
# Searching with an automaton

An expression is searched for in a text with an automaton whose states are followed all at once,
character by character. A state reads a character, checks a condition on the place, goes on to two
states, or accepts. Each state is visited once at most at each place, so a search takes no more
steps than there are places times states.
-/

namespace SqlCompose

/-- A place in a text, by the characters before and after it. -/
structure Place where
  before : Option Char
  after : Option Char

namespace Place

def wordBefore (p : Place) (ascii : Bool) : Bool :=
  p.before.any fun c => isWordChar c && (!ascii || c.toNat < 128)

def wordAfter (p : Place) (ascii : Bool) : Bool :=
  p.after.any fun c => isWordChar c && (!ascii || c.toNat < 128)

end Place

/-- Whether a place satisfies a condition. -/
def Assertion.holds (p : Place) : Assertion → Bool
  | .textStart => p.before.isNone
  | .textEnd => p.after.isNone
  | .lineStart => p.before.all (· == '\n')
  | .lineEnd => p.after.all (· == '\n')
  | .anyLineStart =>
    p.before.all (· == '\n') || (p.before.any (· == '\r') && !p.after.any (· == '\n'))
  | .anyLineEnd =>
    p.after.all (· == '\r') || (p.after.any (· == '\n') && !p.before.any (· == '\r'))
  | .wordEdge ascii => p.wordBefore ascii != p.wordAfter ascii
  | .noWordEdge ascii => p.wordBefore ascii == p.wordAfter ascii
  | .wordStart ascii => !p.wordBefore ascii && p.wordAfter ascii
  | .wordEnd ascii => p.wordBefore ascii && !p.wordAfter ascii
  | .noWordBefore ascii => !p.wordBefore ascii
  | .noWordAfter ascii => !p.wordAfter ascii

/-- A state of an automaton. States are told by their numbers. -/
inductive AutomatonState
  | accept
  | read (s : CharSet) (next : Nat)
  | check (a : Assertion) (next : Nat)
  | fork (next other : Nat)

/-- The states of an automaton. -/
abbrev Automaton := Array AutomatonState

namespace Automaton

/-- Add a state; also its number. -/
def add (s : AutomatonState) (m : Automaton) : Nat × Automaton := (m.size, m.push s)

/-- Do `step` so many times, each time to go on where the one before it starts. -/
def before (step : Nat → Automaton → Nat × Automaton) : Nat → Nat → Automaton → Nat × Automaton
  | 0, next, m => (next, m)
  | n + 1, next, m =>
    let (start, m) := step next m
    before step n start m

/-- Add states that match an expression and then go on to the state `next`; also the state to start
with. -/
def compile : Regex → (next : Nat) → Automaton → Nat × Automaton
  | .epsilon, next, m => (next, m)
  | .literal s, next, m => s.foldr (fun c (next, m) => m.add (.read (.single c) next)) (next, m)
  | .set s, next, m => m.add (.read s next)
  | .assert a, next, m => m.add (.check a next)
  | .group _ r, next, m => compile r next m
  | .seq r s, next, m =>
    let (start, m) := compile s next m
    compile r start m
  | .alt r s, next, m =>
    let (other, m) := compile s next m
    let (start, m) := compile r next m
    m.add (.fork start other)
  | .repeated r least most _, next, m =>
    let (start, m) :=
      match most with
      | none =>
        let (again, m) := m.add (.fork next next)
        let (start, m) := compile r again m
        (again, m.setIfInBounds again (.fork start next))
      | some most =>
        let optional (start : Nat) (m : Automaton) : Nat × Automaton :=
          let (start, m) := compile r start m
          m.add (.fork start next)
        before optional (most - least) next m
    before (compile r) least start m

/-- What was found by following states without reading a character: whether one of them accepts, the
states that read a character, and for each state the number of the last place it was visited at. -/
structure Visit where
  accepted : Bool
  readers : List (CharSet × Nat)
  visited : Array Nat

/-- Follow states without reading a character, at the place of some number. -/
def visit (m : Automaton) (p : Place) (number : Nat) : (fuel : Nat) → List Nat → Visit → Visit
  | 0, _, v => v
  | _, [], v => v
  | fuel + 1, state :: rest, ⟨accepted, readers, visited⟩ =>
    if visited.getD state 0 = number then visit m p number fuel rest ⟨accepted, readers, visited⟩
    else
      let visited := visited.setIfInBounds state number
      match m.getD state .accept with
      | .accept => ⟨true, readers, visited⟩
      | .read s next => visit m p number fuel rest ⟨accepted, (s, next) :: readers, visited⟩
      | .check a next =>
        let rest := if a.holds p then next :: rest else rest
        visit m p number fuel rest ⟨accepted, readers, visited⟩
      | .fork next other =>
        visit m p number fuel (next :: other :: rest) ⟨accepted, readers, visited⟩

/-- Whether the automaton accepts at the place of some number or later. It may start at each place
with the state `start`, and goes on with some other states at this place. -/
def acceptsFrom (m : Automaton) (start number : Nat) (before : Option Char) (states : List Nat)
    (visited : Array Nat) (s : List Char) : Bool :=
  let fuel := 2 * m.size + states.length + 1
  let v := visit m ⟨before, s.head?⟩ number fuel (start :: states) ⟨false, [], visited⟩
  v.accepted ||
    match s with
    | [] => false
    | c :: rest =>
      let states := v.readers.filterMap fun (chars, next) =>
        if chars.contains c then some next else none
      acceptsFrom m start (number + 1) (some c) states v.visited rest

end Automaton

/-- Whether an expression matches somewhere in a text. -/
def Regex.search (r : Regex) (s : String) : Bool :=
  let (accept, m) := Automaton.add .accept #[]
  let (start, m) := Automaton.compile r accept m
  m.acceptsFrom start 1 none [] (.replicate m.size 0) s.toList

end SqlCompose
