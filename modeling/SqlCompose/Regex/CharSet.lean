import SqlCompose.Text.Blank
import SqlCompose.Text.CaseFold
import SqlCompose.Text.ScriptDigit
import SqlCompose.Text.Word

/-!
# Sets of characters

A set of characters is written as runs of code points: each run has a first and a last one, the runs
ascend, and there is a gap between one and the next. So a set has one written form only, and how
many runs it has is a property of the set. The code points of surrogates belong to no set.
-/

namespace SqlCompose

/-- A set of characters, as ascending runs of code points with gaps between them. -/
structure CharSet where
  runs : List (Nat × Nat)
  deriving DecidableEq

namespace CharSet

def empty : CharSet := ⟨[]⟩

/-- Join a run with those of some others that overlap or touch it or each other. The others are in
the order of their first code points, and none of them starts before the run does. -/
def joinFrom (run : Nat × Nat) : List (Nat × Nat) → List (Nat × Nat)
  | [] => [run]
  | next :: rest =>
    if next.1 ≤ run.2 + 1 then joinFrom (run.1, max run.2 next.2) rest
    else run :: joinFrom next rest

/-- The set of the characters in some runs. -/
def ofRuns (runs : List (Nat × Nat)) : CharSet :=
  match runs.mergeSort fun a b => a.1 ≤ b.1 with
  | [] => empty
  | run :: rest => ⟨joinFrom run rest⟩

/-- The set of some characters. -/
def ofCodes (codes : List Nat) : CharSet := ofRuns (codes.map fun code => (code, code))

def single (c : Char) : CharSet := ⟨[(c.toNat, c.toNat)]⟩

def range (first last : Char) : CharSet := ⟨[(first.toNat, last.toNat)]⟩

def inRuns (code : Nat) : List (Nat × Nat) → Bool
  | [] => false
  | (first, last) :: rest => first ≤ code && (code ≤ last || inRuns code rest)

def containsCode (s : CharSet) (code : Nat) : Bool := inRuns code s.runs

def contains (s : CharSet) (c : Char) : Bool := s.containsCode c.toNat

def union (s t : CharSet) : CharSet := ofRuns (s.runs ++ t.runs)

/-- The last code point. -/
def lastCode : Nat := 0x10FFFF

/-- The runs from a code point on of what lies between ascending runs. -/
def gaps (start : Nat) : List (Nat × Nat) → List (Nat × Nat)
  | [] => if start ≤ lastCode then [(start, lastCode)] else []
  | (first, last) :: rest =>
    if start < first then (start, first - 1) :: gaps (last + 1) rest else gaps (last + 1) rest

/-- The parts of a run below and above the surrogates. -/
def besideSurrogates (run : Nat × Nat) : List (Nat × Nat) :=
  [(run.1, min run.2 0xD7FF), (max run.1 0xE000, run.2)].filter fun (first, last) => first ≤ last

/-- The characters that do not belong to a set. -/
def compl (s : CharSet) : CharSet := ⟨(gaps 0 s.runs).flatMap besideSurrogates⟩

def inter (s t : CharSet) : CharSet := (s.compl.union t.compl).compl

/-- The characters that belong to the first set and not to the second. -/
def diff (s t : CharSet) : CharSet := s.inter t.compl

/-- The characters that belong to exactly one of the two sets. -/
def symmDiff (s t : CharSet) : CharSet := (s.diff t).union (t.diff s)

/-- The only code point of a set, if there is just one. -/
def only? (s : CharSet) : Option Nat :=
  match s.runs with
  | [(first, last)] => if first = last then some first else none
  | _ => none

/-- Whether all characters of a set are in the basic Latin block. -/
def isAscii (s : CharSet) : Bool := s.runs.all fun (_, last) => last < 128

/-- The set with all characters that differ from one of its own in letter case only. -/
def fold (s : CharSet) : CharSet :=
  let pairs := foldPairs.filter fun (code, target) =>
    s.containsCode code || s.containsCode target
  let targets := ofCodes (pairs.map (·.2))
  let codes := (foldPairs.filter fun (_, target) => targets.containsCode target).map (·.1)
  s.union (targets.union (ofCodes codes))

/-- The set with the other letter case of its letters of the basic Latin block. -/
def foldAscii (s : CharSet) : CharSet :=
  let upper := s.inter (range 'A' 'Z')
  let lower := s.inter (range 'a' 'z')
  s.union (ofRuns (upper.runs.map (fun (first, last) => (first + 32, last + 32)) ++
    lower.runs.map fun (first, last) => (first - 32, last - 32)))

/-- The letters of the basic Latin block, its decimal digits and the underscore. -/
def asciiWord : CharSet := ⟨[(0x30, 0x39), (0x41, 0x5A), (0x5F, 0x5F), (0x61, 0x7A)]⟩

/-- The decimal digits of the basic Latin block. -/
def asciiDigit : CharSet := ⟨[(0x30, 0x39)]⟩

/-- The blanks of the basic Latin block. -/
def asciiBlank : CharSet := ⟨[(0x9, 0xD), (0x20, 0x20)]⟩

def word : CharSet := ⟨asciiWord.runs ++ wordRuns⟩

def digit : CharSet := ⟨digitRuns⟩

def blank : CharSet := ⟨blankRuns⟩

end CharSet

end SqlCompose
