/-!
# Cutting text at a number of bytes

The bytes of a text are those of its characters, of which each has one to four. A text can be cut
where a character starts or the text ends, and nowhere else: what is cut off inside a character is
no text. A text that is too long is cut at the last such place that is not too far behind.
-/

namespace SqlCompose

namespace Text

/-- Whether a character starts after so many bytes, or the text ends there. -/
def isBoundary (s : String) (bytes : Nat) : Bool := (String.Pos.Raw.mk bytes).isValid s

/-- The last boundary after at most so many bytes, looked for backwards. -/
def lastBoundary (s : String) : (bytes : Nat) → Nat
  | 0 => 0
  | bytes + 1 => if isBoundary s (bytes + 1) then bytes + 1 else lastBoundary s bytes

/-- The search ends at a boundary, at the latest where the text starts. -/
theorem isBoundary_lastBoundary (s : String) (bytes : Nat) :
    isBoundary s (lastBoundary s bytes) = true := by
  induction bytes with
  | zero => exact String.Pos.Raw.isValid_eq_true_iff.mpr String.Pos.Raw.isValid_zero
  | succ bytes ih =>
    rw [lastBoundary]
    split
    · assumption
    · exact ih

/-- The first bytes of a text up to a boundary, as a text. -/
def firstBytes (s : String) (bytes : Nat) (h : isBoundary s bytes = true) : String :=
  .fromUTF8 (s.toByteArray.extract 0 bytes)
    (String.Pos.Raw.isValid_eq_true_iff.mp h).isValidUTF8_extract_zero

/-- As much of a text as fits into so many bytes. -/
def truncateBytes (s : String) (most : Nat) : String :=
  if s.utf8ByteSize ≤ most then s
  else firstBytes s (lastBoundary s most) (isBoundary_lastBoundary s most)

end Text

end SqlCompose
