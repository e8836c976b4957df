namespace ColumnConstants

-- The ranges are ascending, so the first one that does not end before `n` decides. Those of the
-- classes of characters are from version 17.0 of the Unicode character database.
def inRanges (n : Nat) : List (Nat × Nat) → Bool
  | [] => false
  | (first, last) :: ranges => if n ≤ last then first ≤ n else inRanges n ranges

@[simp]
theorem inRanges_nil {n : Nat} : inRanges n [] = false :=
  rfl

theorem inRanges_of_le {n first last : Nat} {ranges : List (Nat × Nat)} (h : n ≤ last) :
    inRanges n ((first, last) :: ranges) = decide (first ≤ n) := by
  simp [inRanges, h]

theorem inRanges_of_lt {n first last : Nat} {ranges : List (Nat × Nat)} (h : last < n) :
    inRanges n ((first, last) :: ranges) = inRanges n ranges := by
  simp [inRanges, Nat.not_le.mpr h]

theorem exists_range_of_inRanges {n : Nat} {ranges : List (Nat × Nat)}
    (h : inRanges n ranges = true) : ∃ r ∈ ranges, r.1 ≤ n ∧ n ≤ r.2 := by
  induction ranges with
  | nil => simp at h
  | cons r ranges ih =>
    obtain ⟨first, last⟩ := r
    by_cases hn : n ≤ last
    · rw [inRanges_of_le hn] at h
      exact ⟨(first, last), by simp, by simpa using h, hn⟩
    · rw [inRanges_of_lt (Nat.lt_of_not_le hn)] at h
      obtain ⟨r, hr, hb⟩ := ih h
      exact ⟨r, by simp [hr], hb⟩

end ColumnConstants
