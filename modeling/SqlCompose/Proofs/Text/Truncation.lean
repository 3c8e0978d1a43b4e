import Mathlib
import SqlCompose.Trace

/-!
# Texts that are cut

A boundary of a text is where it falls into two texts. Of a text that is too long for the log, the
longest beginning that fits is kept: the search for a boundary goes backwards from the limit, so the
first boundary that it meets is the last one that fits.
-/

namespace SqlCompose

namespace Text

variable {s : String} {bytes : ℕ}

/-- A boundary is where a text falls into two. -/
lemma isBoundary_iff :
    isBoundary s bytes = true ↔
      ∃ kept dropped, s = kept ++ dropped ∧ kept.utf8ByteSize = bytes := by
  rw [isBoundary, String.Pos.Raw.isValid_eq_true_iff, String.Pos.Raw.isValid_iff_exists_append]
  simp only [String.Pos.Raw.ext_iff, String.byteIdx_rawEndPos, eq_comm]

/-- No boundary stands between the one that is found and the limit. -/
lemma isGreatest_lastBoundary (s : String) (most : ℕ) :
    IsGreatest {bytes | bytes ≤ most ∧ isBoundary s bytes = true} (lastBoundary s most) := by
  induction most with
  | zero => exact ⟨⟨le_rfl, isBoundary_lastBoundary s 0⟩, fun _ h => h.1⟩
  | succ most ih =>
    rw [lastBoundary]
    split_ifs with hboundary
    · exact ⟨⟨le_rfl, hboundary⟩, fun _ h => h.1⟩
    · obtain ⟨⟨hle, hlast⟩, hgreatest⟩ := ih
      refine ⟨⟨Nat.le_succ_of_le hle, hlast⟩, ?_⟩
      rintro bytes ⟨hbytes, h⟩
      apply hgreatest
      refine ⟨Nat.le_of_lt_succ (lt_of_le_of_ne hbytes ?_), h⟩
      rintro rfl
      exact hboundary h

/-- The first bytes up to a boundary are what stands before it. -/
lemma firstBytes_append {kept dropped : String}
    (h : isBoundary (kept ++ dropped) kept.utf8ByteSize = true) :
    firstBytes (kept ++ dropped) kept.utf8ByteSize h = kept := by
  rw [← String.toByteArray_inj]
  show (kept ++ dropped).toByteArray.extract 0 kept.utf8ByteSize = kept.toByteArray
  rw [String.toByteArray_append]
  exact ByteArray.extract_append_eq_left String.size_toByteArray.symm

lemma exists_firstBytes (h : isBoundary s bytes = true) :
    ∃ dropped, s = firstBytes s bytes h ++ dropped ∧
      (firstBytes s bytes h).utf8ByteSize = bytes := by
  obtain ⟨kept, dropped, rfl, rfl⟩ := isBoundary_iff.mp h
  rw [firstBytes_append]
  exact ⟨dropped, rfl, rfl⟩

/-- A text that is too long is cut at its last boundary that fits. -/
lemma exists_truncateBytes {most : ℕ} (h : most < s.utf8ByteSize) :
    ∃ dropped, s = truncateBytes s most ++ dropped ∧
      (truncateBytes s most).utf8ByteSize = lastBoundary s most := by
  rw [truncateBytes, if_neg (not_le.mpr h)]
  exact exists_firstBytes (isBoundary_lastBoundary s most)

end Text

namespace SqlTracer

/-- A text within the limit is left as it is. -/
lemma truncate_of_le {t : SqlTracer} {sql : String}
    (h : ∀ most ∈ t.maxLength, sql.utf8ByteSize ≤ most) : t.truncate sql = sql := by
  unfold truncate
  cases hmost : t.maxLength with
  | none => rfl
  | some most => exact if_neg (not_lt.mpr (h most hmost))

lemma truncate_of_lt {t : SqlTracer} {sql : String} {most : ℕ} (hmost : t.maxLength = some most)
    (h : most < sql.utf8ByteSize) : t.truncate sql = Text.truncateBytes sql most ++ "..." := by
  rw [truncate, hmost]
  exact if_pos h

/-- A text within the limit is logged as it is. A longer one is logged as its longest beginning that
is not cut inside a character and fits into the limit, with dots behind it. -/
theorem truncate_longest (t : SqlTracer) (sql : String) :
    ((∀ most ∈ t.maxLength, sql.utf8ByteSize ≤ most) → t.truncate sql = sql) ∧
    (∀ most ∈ t.maxLength, most < sql.utf8ByteSize →
      ∃ kept dropped, sql = kept ++ dropped ∧ t.truncate sql = kept ++ "..." ∧
        IsGreatest {bytes | bytes ≤ most ∧ Text.isBoundary sql bytes = true} kept.utf8ByteSize) ∧
    ∀ bytes, Text.isBoundary sql bytes = true ↔
      ∃ before after, sql = before ++ after ∧ before.utf8ByteSize = bytes := by
  refine ⟨truncate_of_le, fun most hmost hlt => ?_, fun _ => Text.isBoundary_iff⟩
  obtain ⟨dropped, hsplit, hsize⟩ := Text.exists_truncateBytes hlt
  refine ⟨_, dropped, hsplit, truncate_of_lt hmost hlt, ?_⟩
  rw [hsize]
  exact Text.isGreatest_lastBoundary sql most

/-- Two bytes of the last character would fit. -/
theorem truncate_longest_fourBytes :
    let t : SqlTracer := ⟨.debug, some 5⟩
    5 ∈ t.maxLength ∧ 5 < "aé😀".utf8ByteSize ∧ t.truncate "aé😀" = "aé..." ∧
    IsGreatest {bytes | bytes ≤ 5 ∧ Text.isBoundary "aé😀" bytes = true} 3 := by
  intro t
  have hlong : 5 < "aé😀".utf8ByteSize := by decide
  obtain ⟨kept, dropped, -, hcut, hgreatest⟩ := (truncate_longest t "aé😀").2.1 5 rfl hlong
  have htext : t.truncate "aé😀" = "aé..." := by decide +kernel
  have hkept : kept = "aé" := by
    rw [htext] at hcut
    exact (String.append_left_inj "...").mp hcut.symm
  rw [hkept] at hgreatest
  exact ⟨rfl, hlong, htext, hgreatest⟩

end SqlTracer

end SqlCompose
