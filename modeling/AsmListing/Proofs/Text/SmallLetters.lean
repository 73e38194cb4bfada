import Mathlib
import AsmListing.Proofs.Text.Ascii

/-! Texts in small ASCII letters. Case maps and classes of characters do not tell them from capitals. -/
namespace AsmListing.Text

/-- The text with small ASCII letters; other letters stay as they are. -/
def small (s : String) : String := String.ofList (s.toList.map Char.toLower)

theorem toList_small (s : String) : (small s).toList = s.toList.map Char.toLower := String.toList_ofList

theorem small_append (s t : String) : small (s ++ t) = small s ++ small t := by
  simp [small]

theorem small_ofList {cs ds : List Char} (h : cs.map Char.toLower = ds.map Char.toLower) :
    small (String.ofList cs) = small (String.ofList ds) := by
  simp [small, h]

/-- Capitals are undone in an ASCII text. -/
theorem small_upper {s : String} (h : IsAscii s.toList) : small (upper s) = small s := by
  have hupper : s.toList.flatMap upperChar = s.toList.map Char.toUpper := by
    rw [← List.flatMap_pure_eq_map]
    apply List.flatMap_congr
    intro c hc
    rw [upperChar, if_pos (h c hc)]
    rfl
  rw [upper, hupper]
  simp [small, Function.comp_def]

/-- What does not tell the two cases of ASCII letters apart does not change under small letters. -/
theorem apply_toLower {α : Type} {f : Char → α}
    (h : ∀ n < 128, f (Char.ofNat n).toLower = f (Char.ofNat n)) (c : Char) : f c.toLower = f c := by
  by_cases hascii : c.toNat < 128
  · exact forall_ascii (P := fun c => f c.toLower = f c) h hascii
  · have hcapital : ¬(c.val ≥ 'A'.val ∧ c.val ≤ 'Z'.val) := fun hcapital =>
      hascii ((UInt32.le_iff_toNat_le.mp hcapital.2).trans_lt (by decide))
    rw [Char.toLower, dif_neg hcapital]

theorem isBlank_toLower (c : Char) : isBlank c.toLower = isBlank c := apply_toLower (by decide) c

theorem isWordChar_toLower (c : Char) : isWordChar c.toLower = isWordChar c := apply_toLower (by decide) c

theorem takeWhile_map_toLower {p : Char → Bool} (h : ∀ c, p c.toLower = p c) (cs : List Char) :
    (cs.map Char.toLower).takeWhile p = (cs.takeWhile p).map Char.toLower := by
  rw [List.takeWhile_map]
  congr 2
  exact funext h

private theorem dropWhile_map_toLower {p : Char → Bool} (h : ∀ c, p c.toLower = p c) (cs : List Char) :
    (cs.map Char.toLower).dropWhile p = (cs.dropWhile p).map Char.toLower := by
  rw [List.dropWhile_map]
  congr 2
  exact funext h

theorem trim_map_toLower (cs : List Char) : trim (cs.map Char.toLower) = (trim cs).map Char.toLower := by
  simp only [trim, dropWhile_map_toLower isBlank_toLower, ← List.map_reverse]

theorem upper_small (s : String) : upper (small s) = upper s := by
  have hupper (c : Char) : upperChar c.toLower = upperChar c := apply_toLower (by decide) c
  rw [upper, toList_small, List.flatMap_map, upper]
  simp only [hupper]

private theorem isCaseIgnorable_toLower (c : Char) : isCaseIgnorable c.toLower = isCaseIgnorable c :=
  apply_toLower (by decide) c

private theorem isCased_toLower (c : Char) : isCased c.toLower = isCased c := apply_toLower (by decide) c

private theorem startsCased_map_toLower (cs : List Char) :
    startsCased (cs.map Char.toLower) = startsCased cs := by
  rw [startsCased, List.find?_map, Option.any_map, startsCased]
  simp only [Function.comp_def, isCaseIgnorable_toLower, isCased_toLower]

private theorem lowerFrom_map_toLower (afterCased : Bool) (cs : List Char) :
    lowerFrom afterCased (cs.map Char.toLower) = lowerFrom afterCased cs := by
  -- The small letter for a sigma depends on whether the letters next to it have a case, not on which.
  induction cs generalizing afterCased with
  | nil => rfl
  | cons c cs ih =>
    have hsigma : (c.toLower = '\u03a3') = (c = '\u03a3') :=
      apply_toLower (f := (· = '\u03a3')) (by decide) c
    have hlower : lowerChar c.toLower = lowerChar c := apply_toLower (by decide) c
    rw [List.map_cons, lowerFrom, lowerFrom]
    simp only [hsigma, hlower, isCaseIgnorable_toLower, isCased_toLower, startsCased_map_toLower, ih]

theorem lower_small (s : String) : lower (small s) = lower s := by
  rw [lower, toList_small, lowerFrom_map_toLower, lower]

end AsmListing.Text
