import SqlCompose.Regex.CharSet

/-!
# The bytes of the characters of a set

In UTF-8 a character takes one to four bytes. The characters of a run of code points are the texts
of some sequences of byte ranges, each sequence with the ranges of the first byte, the second byte
and so on. The sequences are as few as possible, and ascend.
-/

namespace SqlCompose

/-- Ranges of the bytes that stand one after the other. -/
abbrev ByteSequence := List (Nat × Nat)

namespace ByteSequence

/-- How many numbers there are with `n` digits to the base 64, of which a byte after the first one
holds one digit. -/
def span (n : Nat) : Nat := Nat.pow 64 n

/-- The sequences of the numbers from one to another. The first byte holds what `n` bytes after it
do not, on top of `mark`. -/
def ofNumbers : (n mark : Nat) → (low high : Nat) → List ByteSequence
  | 0, mark, low, high => [[(mark + low, mark + high)]]
  | n + 1, mark, low, high =>
    let unit := span (n + 1)
    let (first, last) := (low / unit, high / unit)
    let part (first last low high : Nat) : List ByteSequence :=
      (ofNumbers n 0x80 low high).map ((mark + first, mark + last) :: ·)
    if first = last then part first last (low % unit) (high % unit)
    else
      let firstFull := if low % unit = 0 then first else first + 1
      let lastFull := if high % unit = unit - 1 then last else last - 1
      (if low % unit = 0 then [] else part first first (low % unit) (unit - 1)) ++
        (if firstFull ≤ lastFull then part firstFull lastFull 0 (unit - 1) else []) ++
        if high % unit = unit - 1 then [] else part last last 0 (high % unit)

/-- The runs of the code points that take equally many bytes: how many bytes stand after the first
one, what marks the first one, and the first and last code points. -/
def widths : List (Nat × Nat × Nat × Nat) :=
  [(0, 0, 0, 0x7F), (1, 0xC0, 0x80, 0x7FF), (2, 0xE0, 0x800, 0xD7FF), (2, 0xE0, 0xE000, 0xFFFF),
    (3, 0xF0, 0x10000, 0x10FFFF)]

/-- The sequences of a run of code points. -/
def ofRun (run : Nat × Nat) : List ByteSequence :=
  widths.flatMap fun (n, mark, low, high) =>
    let (low, high) := (max low run.1, min high run.2)
    if low ≤ high then ofNumbers n mark low high else []

end ByteSequence

/-- The sequences of the characters of a set. -/
def CharSet.byteSequences (s : CharSet) : List ByteSequence := s.runs.flatMap ByteSequence.ofRun

def charBytes (c : Char) : List Nat :=
  ((ByteSequence.ofRun (c.toNat, c.toNat)).head?.getD []).map (·.1)

end SqlCompose
