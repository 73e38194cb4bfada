import Mathlib
import AsmListing.Text.LetterCase

/-! Classes of characters. A property of ASCII characters is settled by trying all of them; the case
maps of an ASCII text change its letters one by one. -/
namespace AsmListing.Text

def IsAscii (cs : List Char) : Prop := ∀ c ∈ cs, c.toNat < 128

/-- What holds of the first 128 characters holds of every ASCII character. -/
theorem forall_ascii {P : Char → Prop} (h : ∀ n < 128, P (Char.ofNat n)) {c : Char}
    (hc : c.toNat < 128) : P c := by
  have := h c.toNat hc
  rwa [Char.ofNat_toNat] at this

theorem toNat_lt_of_toLower {c : Char} (h : c.toLower.toNat < 128) : c.toNat < 128 := by
  by_cases hcapital : c.val ≥ 'A'.val ∧ c.val ≤ 'Z'.val
  · exact (UInt32.le_iff_toNat_le.mp hcapital.2).trans_lt (by decide)
  · rwa [Char.toLower, dif_neg hcapital] at h

theorem toNat_lt_of_isAlphanum {c : Char} (h : c.isAlphanum) : c.toNat < 128 := by
  have hle {a : Char} (ha : c.val ≤ a.val) : c.toNat ≤ a.toNat := UInt32.le_iff_toNat_le.mp ha
  simp only [Char.isAlphanum, Char.isAlpha, Char.isUpper, Char.isLower, Char.isDigit, Bool.or_eq_true,
    Bool.and_eq_true, decide_eq_true_eq] at h
  rcases h with (h | h) | h
  · exact (hle h.2).trans_lt (by decide)
  · exact (hle h.2).trans_lt (by decide)
  · exact (hle h.2).trans_lt (by decide)

theorem toNat_lt_of_isDigit {c : Char} (h : c.isDigit) : c.toNat < 128 :=
  toNat_lt_of_isAlphanum (by simp [Char.isAlphanum, h])

theorem IsAscii.of_isAlphanum {cs : List Char} (h : ∀ c ∈ cs, c.isAlphanum) : IsAscii cs :=
  fun c hc => toNat_lt_of_isAlphanum (h c hc)

theorem isAlphanumeric_ascii {c : Char} (h : c.toNat < 128) : isAlphanumeric c = c.isAlphanum :=
  if_pos h

theorem isWordChar_of_isAlphanum {c : Char} (h : c.isAlphanum) : isWordChar c := by
  rw [isWordChar, isAlphanumeric_ascii (toNat_lt_of_isAlphanum h), h, Bool.or_true]

/-- Blanks are no characters of words. -/
theorem isWordChar_of_isBlank {c : Char} (h : isBlank c) : isWordChar c = false := by
  have hdisjoint : blankRanges.all fun r => alphanumericRanges.all fun s => r.2 < s.1 || s.2 < r.1 := by
    decide +kernel
  by_cases hascii : c.toNat < 128
  · exact forall_ascii (P := fun c => isBlank c → isWordChar c = false) (by decide) hascii h
  have hline : c ≠ '_' := by
    rintro rfl
    exact hascii (by decide)
  rw [isWordChar, isAlphanumeric, if_neg hascii, beq_false_of_ne hline, Bool.false_or]
  by_contra hword
  rw [Bool.not_eq_false] at hword
  obtain ⟨r, hr, hblank⟩ := List.any_eq_true.mp h
  obtain ⟨s, hs, hletter⟩ := List.any_eq_true.mp hword
  have hapart := List.all_eq_true.mp (List.all_eq_true.mp hdisjoint r hr) s hs
  simp only [Bool.and_eq_true, Bool.or_eq_true, decide_eq_true_eq] at hblank hletter hapart
  omega

theorem isBlank_of_isWordChar {c : Char} (h : isWordChar c) : isBlank c = false := by
  by_contra hblank
  rw [isWordChar_of_isBlank (by simpa using hblank)] at h
  cases h

theorem toList_lower_ascii {s : String} (h : IsAscii s.toList) :
    (lower s).toList = s.toList.map Char.toLower := by
  have hsigma : '\u03a3' ∉ s.toList := fun hmem => absurd (h _ hmem) (by decide)
  rw [lower, String.toList_ofList, lowerFrom_eq_flatMap false hsigma, ← List.flatMap_pure_eq_map]
  apply List.flatMap_congr
  intro c hc
  rw [lowerChar, if_pos (h c hc)]
  rfl

end AsmListing.Text
