import ColumnConstants.Source.Piece

namespace ColumnConstants

-- No white space is a letter. There are few characters of white space, and each is looked up.
theorem isAlphabetic_eq_false_of_isBlank {c : Char} (h : isBlank c = true) :
    isAlphabetic c = false := by
  have all : ∀ r ∈ blankRanges, ∀ i < r.2 + 1 - r.1,
      inRanges (r.1 + i) alphabeticRanges = false := by decide +kernel
  have ⟨r, hr, hl, hu⟩ := exists_range_of_inRanges h
  have hc := all r hr (c.toNat - r.1) (by omega)
  rwa [Nat.add_sub_cancel' hl] at hc

theorem isBlank_eq_false_of_startsWord {c : Char} (h : startsWord c = true) :
    isBlank c = false := by
  cases hb : isBlank c
  case false => rfl
  case true =>
    have ha := isAlphabetic_eq_false_of_isBlank hb
    have hc : c = '_' := by simpa [startsWord, ha] using h
    subst hc
    exact absurd hb (by decide)

theorem toNat_of_startsNumber {c : Char} (h : startsNumber c = true) :
    ∃ i < 10, c.toNat = 48 + i := by
  have ⟨hl, hu⟩ : 48 ≤ c.toNat ∧ c.toNat ≤ 57 := by
    simpa [startsNumber, Char.isDigit, UInt32.le_iff_toNat_le] using h
  exact ⟨c.toNat - 48, by omega, by omega⟩

theorem isBlank_eq_false_of_startsNumber {c : Char} (h : startsNumber c = true) :
    isBlank c = false := by
  have all : ∀ i < 10, inRanges (48 + i) blankRanges = false := by decide
  have ⟨i, hi, hc⟩ := toNat_of_startsNumber h
  rw [isBlank, hc, all i hi]

theorem startsWord_eq_false_of_startsNumber {c : Char} (h : startsNumber c = true) :
    startsWord c = false := by
  have all : ∀ i < 10, inRanges (48 + i) alphabeticRanges = false := by decide
  have ⟨i, hi, hc⟩ := toNat_of_startsNumber h
  have hu : c ≠ '_' := by
    rintro rfl
    exact absurd h (by decide)
  simp [startsWord, isAlphabetic, hc, all i hi, hu]

theorem continuesWord_of_startsWord {c : Char} (h : startsWord c = true) :
    continuesWord c = true := by
  unfold startsWord at h
  unfold continuesWord isAlphanumeric
  cases ha : isAlphabetic c
  case false => simp_all
  case true => rfl

end ColumnConstants
