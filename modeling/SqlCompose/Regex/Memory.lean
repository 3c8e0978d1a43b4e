import SqlCompose.Regex.Basic
import SqlCompose.Regex.ByteSequence
import SqlCompose.Regex.Memo

/-!
# The memory of an expression

An expression is allowed if the automata over bytes that would search for it, one that reads a text
forwards and one that reads it backwards, take 10 MiB each at most. Repetitions are unrolled in
them. A state takes 32 bytes, 8 more for each byte range if it reads several, and 4 more for each
state that it forks to.
-/

namespace SqlCompose

/-- What an automaton takes: its states, and the bytes that they need beyond their fixed size. -/
structure Memory where
  states : Nat
  extra : Nat

namespace Memory

def bytes (m : Memory) : Nat := 32 * m.states + m.extra

/-- The most bytes that are allowed. -/
def limit : Nat := 10485760

/-- Some states more, and some bytes beyond their fixed size. -/
def add (states extra : Nat) (m : Memory) : Memory := ⟨m.states + states, m.extra + extra⟩

def allowed? (m : Memory) : Option Memory := if m.bytes ≤ limit then some m else none

/-- Add states and bytes, if that is allowed. -/
def add? (states extra : Nat) (m : Memory) : Option Memory := (m.add states extra).allowed?

/-- Add something so many times, as long as that is allowed. -/
def addTimes? (more : Memory → Option Memory) : Nat → Memory → Option Memory
  | 0, m => some m
  | n + 1, m =>
    match more m with
    | some m => addTimes? more n m
    | none => none

/-! ### Sets -/

/-- Add states that read one of some sequences forwards and then go on to the state `next`; also the
state to start with. States that read the same are one, if the memo tells. -/
def addForwards (next : Nat) : (fuel : Nat) → List ByteSequence → Memo × Memory →
    Nat × Memo × Memory
  | 0, _, m => (next, m)
  | fuel + 1, sequences, m =>
    let together := sequences.splitBy fun a b => a.head? == b.head?
    let (ranges, memo, memory) := together.foldl (fun (ranges, m) group =>
      let (low, high) := (group.head?.bind List.head?).getD (0, 0)
      let rests := group.map List.tail
      let (state, m) := if rests.all List.isEmpty then (next, m) else addForwards next fuel rests m
      (ranges ++ [[low, high, state]], m)) ([], m)
    match memo.find? ranges.flatten with
    | some state => (state, memo, memory)
    | none =>
      let state := memory.states
      (state, memo.note ranges.flatten state, memory.add 1 (8 * ranges.length))

/-- Add states that read a sequence backwards and then go on to the state `next`. There is a state
for each range; ranges that are read after the same state are one, if the memo tells. -/
def addBackwards (next : Nat) (sequence : ByteSequence) (m : Memo × Memory) : Memo × Memory :=
  (sequence.foldl (fun (next, memo, memory) (low, high) =>
    match memo.find? [next, low, high] with
    | some state => (state, memo, memory)
    | none =>
      let state := memory.states
      (state, memo.note [next, low, high] state, memory.add 1 0)) (next, m)).2

/-- Add states that read a character of a set. -/
def addSet (backwards : Bool) (s : CharSet) (m : Memory) : Memory :=
  if s.isAscii then m.add 2 (8 * s.runs.length)
  else
    let sequences := s.byteSequences
    if backwards then
      let next := m.states + 1
      (sequences.foldl (fun m sequence => addBackwards next sequence m)
        (Memo.empty 1000, m.add 2 (4 * sequences.length))).2
    else (addForwards m.states 4 sequences (Memo.empty 10000, m.add 1 0)).2.2

/-! ### Alternatives that are literals -/

/-- Add the states of a tree of words. A node tries its words in their order: an empty word ends a
part of them, unless it follows other empty words at the start, and the words of a part that start
with the same byte have a node of their own, if there is more of them. -/
def addWords : (fuel : Nat) → List (List Nat) → Memory → Memory
  | 0, _, m => m
  | fuel + 1, words, m =>
    let rest := words.dropWhile List.isEmpty
    let parts := (if rest.length < words.length then [] :: rest else rest).splitOnP List.isEmpty
    let filled := parts.filter fun part => !part.isEmpty
    filled.foldl (fun m part =>
      let firsts := (part.filterMap List.head?).eraseDups
      let m := m.add 1 (if firsts.length = 1 then 0 else 8 * firsts.length)
      firsts.foldl (fun m first =>
        let rests := (part.filter fun word => word.head? == some first).map List.tail
        if rests.all List.isEmpty then m else addWords fuel rests m) m)
      (m.add 1 (4 * (filled.length + parts.length - 1)))

def textBytes (s : List Char) : List Nat := s.flatMap charBytes

/-- The bytes of some alternatives, if they all are literals. -/
def words? (rs : List Regex) : Option (List (List Nat)) :=
  rs.mapM fun
    | .literal s => some (textBytes s)
    | _ => none

/-! ### Expressions -/

/-- Add what joins an alternative to the ones before it, of which there are `earlier`; nothing, if
it stands alone. -/
def joinAlternative? (earlier : Option Nat) (m : Memory) : Option Memory :=
  match earlier with
  | none | some 0 => some m
  | some 1 => m.add? 2 8
  | some _ => m.add? 0 4

/-- Add what an expression takes, which may be an alternative after some others. -/
def addRegex? (backwards : Bool) : Regex → (earlier : Option Nat) → Memory → Option Memory
  | .epsilon, earlier, m => do joinAlternative? earlier (← m.add? 1 0)
  | .literal s, earlier, m => do joinAlternative? earlier (← m.add? (textBytes s).length 0)
  | .set s, earlier, m => do joinAlternative? earlier (← (addSet backwards s m).allowed?)
  | .assert _, earlier, m => do joinAlternative? earlier (← m.add? 1 0)
  | .group _ r, earlier, m => do
    let border := if backwards then 0 else 1
    let m ← addRegex? backwards r none (← m.add? border 0)
    joinAlternative? earlier (← m.add? border 0)
  | .seq r s, earlier, m => do
    let m ←
      if backwards then (addRegex? backwards s none m).bind (addRegex? backwards r none)
      else (addRegex? backwards r none m).bind (addRegex? backwards s none)
    joinAlternative? earlier m
  | .alt r s, none, m =>
    match words? (r :: s.alternatives) with
    | some words =>
      let words := if backwards then words.map List.reverse else words
      let longest := (words.map List.length).foldl max 0
      (addWords longest words (m.add 1 0)).allowed?
    | none => do addRegex? backwards s (some 1) (← addRegex? backwards r none m)
  | .alt r s, some earlier, m => do
    let m ← joinAlternative? (some earlier) (← addRegex? backwards r none m)
    addRegex? backwards s (some (earlier + 1)) m
  | .repeated r least most _, earlier, m => do
    let once := addRegex? backwards r none
    let m ←
      match least, most with
      | 0, none =>
        if r.minLength.any (0 < ·) then once (← m.add? 1 8) else (← once m).add? 3 16
      | least, none => (← addTimes? once least m).add? 1 8
      | 0, some 1 => (← once (← m.add? 1 8)).add? 1 0
      | least, some most =>
        let m ← if least = 0 then m.add? 1 0 else addTimes? once least m
        if least = most then some m
        else addTimes? (fun m => do once (← m.add? 1 8)) (most - least) (← m.add? 1 0)
    joinAlternative? earlier m

end Memory

namespace Regex

/-- Whether it is plain that an expression matches only where a condition holds at the start. -/
def startsWith (a : Assertion) : Regex → Bool
  | .assert b => a == b
  | .group _ r => r.startsWith a
  | .repeated r least _ _ => 0 < least && r.startsWith a
  | .seq r s => r.startsWith a || (r.isEmptyOnly && s.startsWith a)
  | .alt r s => r.startsWith a && s.startsWith a
  | _ => false

/-- Whether it is plain that an expression matches only where a condition holds at the end. -/
def endsWith (a : Assertion) : Regex → Bool
  | .assert b => a == b
  | .group _ r => r.endsWith a
  | .repeated r least _ _ => 0 < least && r.endsWith a
  | .seq r s => s.endsWith a || (s.isEmptyOnly && r.endsWith a)
  | .alt r s => r.endsWith a && s.endsWith a
  | _ => false

/-- The memory of the automaton for an expression, if it is allowed. An automaton skips what comes
before a match, unless a match is bound to the end of the text that is read first. -/
def memory? (backwards : Bool) (r : Regex) : Option Memory := do
  let isBound := if backwards then r.endsWith .textEnd else r.startsWith .textStart
  let skip : Memory := if isBound then ⟨1, 0⟩ else ⟨3, 16⟩
  let border := if backwards then 0 else 1
  let m ← Memory.addRegex? backwards r none (skip.add border 0)
  m.add? (border + 1) 0

def isAllowed (r : Regex) : Bool := (r.memory? false).isSome && (r.memory? true).isSome

end Regex

end SqlCompose
