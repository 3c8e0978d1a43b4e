/-!
# Blank characters and trimming

A blank is a character with the Unicode property `White_Space`. Trimming removes the blanks at the
ends of a text and nothing else; what is left neither starts nor ends with a blank.
-/

namespace SqlCompose

/-- The first and last code points of the runs of blanks. -/
def blankRuns : List (Nat × Nat) := [
  (0x9, 0xD), (0x20, 0x20), (0x85, 0x85), (0xA0, 0xA0), (0x1680, 0x1680), (0x2000, 0x200A),
  (0x2028, 0x2029), (0x202F, 0x202F), (0x205F, 0x205F), (0x3000, 0x3000)]

/-- Whether a character has the property `White_Space`. -/
def isBlank (c : Char) : Bool :=
  blankRuns.any fun (first, last) => first ≤ c.toNat && c.toNat ≤ last

namespace Chars

def trimStart (s : List Char) : List Char := s.dropWhile isBlank

def trimEnd (s : List Char) : List Char := (s.reverse.dropWhile isBlank).reverse

def trim (s : List Char) : List Char := trimEnd (trimStart s)

end Chars

namespace Text

/-- Drop the blanks at the end of a text. -/
def trimEnd (s : String) : String := .ofList (Chars.trimEnd s.toList)

def trim (s : String) : String := .ofList (Chars.trim s.toList)

/-- Whether a text has no character but blanks. -/
def isBlank (s : String) : Bool := s.toList.all SqlCompose.isBlank

@[simp] theorem toList_trim (s : String) : (trim s).toList = Chars.trim s.toList := by simp [trim]

@[simp] theorem toList_trimEnd (s : String) :
    (trimEnd s).toList = Chars.trimEnd s.toList := by simp [trimEnd]

end Text

end SqlCompose
