import Mathlib
import AsmListing.Proofs.Numeral.Value
import AsmListing.Proofs.Numeral.Width
import AsmListing.Proofs.Options.Changes

/-! What is written for a number that fits its width. A digit separator holds no digit, so it can be
taken out again; what is left denotes the number, however it has been padded and grouped. -/
namespace AsmListing.Numeral

/-- The characters behind the first `skip` ones, without the occurrences of a word there. -/
def removedFrom (word : List Char) : Nat → List Char → List Char
  | _, [] => []
  | skip + 1, _ :: cs => removedFrom word skip cs
  | 0, c :: cs =>
    if word ≠ [] ∧ word <+: c :: cs then removedFrom word (word.length - 1) cs
    else c :: removedFrom word 0 cs

/-- The characters without the occurrences of a word, which are looked for from left to right. -/
def removed (word cs : List Char) : List Char := removedFrom word 0 cs

section Removed
variable {word : List Char}

private theorem removedFrom_eq_drop (skip : Nat) (cs : List Char) :
    removedFrom word skip cs = removed word (cs.drop skip) := by
  induction skip generalizing cs with
  | zero => rfl
  | succ skip ih =>
    cases cs with
    | nil => rfl
    | cons c cs => exact ih cs

private theorem removed_word_append (hne : word ≠ []) (rest : List Char) :
    removed word (word ++ rest) = removed word rest := by
  obtain ⟨c, cs, rfl⟩ := List.exists_cons_of_ne_nil hne
  have hstart : c :: cs <+: c :: (cs ++ rest) := List.prefix_append (c :: cs) rest
  rw [List.cons_append, removed, removedFrom, if_pos ⟨hne, hstart⟩, removedFrom_eq_drop]
  simp

/-- Characters that the word does not hold stay where they are. -/
theorem removed_append {ds : List Char} (h : ∀ c ∈ ds, c ∉ word) (rest : List Char) :
    removed word (ds ++ rest) = ds ++ removed word rest := by
  induction ds with
  | nil => rfl
  | cons d ds ih =>
    have hstart : ¬(word ≠ [] ∧ word <+: d :: (ds ++ rest)) := by
      rintro ⟨hne, hstart⟩
      obtain ⟨c, cs, rfl⟩ := List.exists_cons_of_ne_nil hne
      obtain ⟨rfl, -⟩ := List.cons_prefix_cons.mp hstart
      exact h c List.mem_cons_self List.mem_cons_self
    rw [List.cons_append, removed, removedFrom, if_neg hstart]
    exact congrArg (d :: ·) (ih fun c hc => h c (List.mem_cons_of_mem d hc))

private theorem removed_eq_self {ds : List Char} (h : ∀ c ∈ ds, c ∉ word) : removed word ds = ds := by
  have hnil := removed_append h []
  rwa [List.append_nil, show removed word [] = [] from rfl, List.append_nil] at hnil

private theorem removed_intercalate (hne : word ≠ []) {gs : List (List Char)}
    (h : ∀ g ∈ gs, ∀ c ∈ g, c ∉ word) : removed word (word.intercalate gs) = gs.flatten := by
  induction gs with
  | nil => rfl
  | cons g gs ih =>
    have hg := h g List.mem_cons_self
    have hgs := ih fun g' hg' => h g' (List.mem_cons_of_mem g hg')
    by_cases hlast : gs = []
    · simpa [hlast] using removed_eq_self hg
    · rw [List.intercalate_cons_of_ne_nil hlast, List.append_assoc, removed_append hg,
        removed_word_append hne, hgs, List.flatten_cons]

/-- Taking the separator out of grouped digits gives the digits back. -/
theorem removed_grouped (size : Nat) {ds : List Char} (h : ∀ c ∈ ds, c ∉ word) :
    removed word (grouped word size ds) = ds := by
  rw [grouped]
  split
  · exact removed_eq_self h
  · next hgroups =>
    have hne : word ≠ [] := fun hword => hgroups (.inl (by simp [hword]))
    have hmem : ∀ g ∈ groups size ds, ∀ c ∈ g, c ∉ word := fun g hg c hc =>
      h c (flatten_groups size ds ▸ List.mem_flatten_of_mem hg hc)
    rw [removed_intercalate hne hmem, flatten_groups]

end Removed

private theorem exists_groups_cons (size : Nat) (d : Char) (ds : List Char) :
    ∃ g gs, groups size (d :: ds) = (d :: g) :: gs := by
  rw [groups]
  split
  · exact ⟨[], [], rfl⟩
  · next g gs _ =>
    split
    · exact ⟨g, gs, rfl⟩
    · exact ⟨[], g :: gs, rfl⟩

/-- Grouping leaves the first digit in front. -/
theorem head?_grouped (separator : List Char) (size : Nat) (ds : List Char) :
    (grouped separator size ds).head? = ds.head? := by
  rw [grouped]
  split
  · rfl
  · cases ds with
    | nil => rfl
    | cons d ds =>
      obtain ⟨g, gs, hgroups⟩ := exists_groups_cons size d ds
      rw [hgroups]
      cases gs with
      | nil => simp
      | cons g' gs =>
        rw [List.intercalate_cons_of_ne_nil (by simp)]
        simp

end AsmListing.Numeral

namespace AsmListing.NumberOptions
open Outcome Numeral

/-- The digits of a number, padded to a width if the options ask for it. -/
def padded (o : NumberOptions) (bits n : Nat) : List Char :=
  let ds := digits o.radix (o.radix = .hexadecimal && o.uppercaseHex) n
  match o.radix.bitsPerDigit? with
  | some k => if o.leadingZeros then ds.leftpad ((bits + k - 1) / k) '0' else ds
  | none => ds

/-- The digits with a zero in front if a letter would stand there and must not. -/
def startedWithDigit (o : NumberOptions) (ds : List Char) : List Char :=
  if o.radix = .hexadecimal ∧ o.leadingZeroBeforeHexLetter ∧ o.numberPrefix = "" ∧
    ds.head?.any Char.isAlpha then '0' :: ds else ds

theorem body_eq (o : NumberOptions) (bits n : Nat) : o.body bits n =
    o.startedWithDigit (grouped o.digitSeparator.toList o.groupSize (o.padded bits n)) := rfl

theorem denotes_padded (o : NumberOptions) (bits n : Nat) :
    Denotes o.radix.value n (o.padded bits n) := by
  have hds := denotes_digits o.radix (o.radix = .hexadecimal && o.uppercaseHex) n
  rw [padded]
  split
  · split
    · exact hds.leftpad _
    · exact hds
  · exact hds

private theorem not_mem_separator {o : NumberOptions} (ho : o.checked = .ok o) {radix : Nat} {c : Char}
    (hc : IsDigit radix c) : c ∉ o.digitSeparator.toList := by
  intro hmem
  have hascii := Text.toNat_lt_of_isAlphanum hc.isAlphanum
  refine (checked_eq_ok.mp ho).1 (.inl (List.any_eq_true.mpr ⟨c, hmem, ?_⟩))
  rw [Text.isAlphanumeric_ascii hascii]
  exact hc.isAlphanum

theorem denotes_startedWithDigit {o : NumberOptions} {n : Nat} {ds : List Char}
    (h : Denotes o.radix.value n ds) : Denotes o.radix.value n (o.startedWithDigit ds) := by
  rw [startedWithDigit]
  split
  · exact h.cons_zero
  · exact h

/-- A hexadecimal number that must not start with a letter starts with a decimal digit. -/
theorem head?_startedWithDigit {o : NumberOptions} {ds : List Char} (hradix : o.radix = .hexadecimal)
    (hzero : o.leadingZeroBeforeHexLetter) (hempty : o.numberPrefix = "")
    (hhead : ds.head?.any Char.isAlphanum) : (o.startedWithDigit ds).head?.any Char.isDigit := by
  cases ds with
  | nil => cases hhead
  | cons d ds =>
    have hd : d.isAlphanum := hhead
    by_cases hletter : d.isAlpha
    · simp [startedWithDigit, hradix, hzero, hempty, hletter]
    · simpa [startedWithDigit, hletter, Char.isAlphanum] using hd

/-- Taking out the separators leaves the padded digits, for grouping does not change which digit stands
in front. -/
theorem removed_body {o : NumberOptions} (ho : o.checked = .ok o) (bits n : Nat) :
    removed o.digitSeparator.toList (o.body bits n) = o.startedWithDigit (o.padded bits n) := by
  have hdigits := (o.denotes_padded bits n).isDigit
  have hremoved := removed_grouped o.groupSize fun c hc => not_mem_separator ho (hdigits c hc)
  have hzero : ∀ c ∈ ['0'], c ∉ o.digitSeparator.toList :=
    List.forall_mem_singleton.mpr (not_mem_separator ho (isDigit_zero o.radix))
  rw [body_eq, startedWithDigit, startedWithDigit, head?_grouped]
  split
  · rw [← List.singleton_append, removed_append hzero, hremoved]
    rfl
  · exact hremoved

/-- The text shows the number. If it is to be shown as a decimal number it stands there as such, and
otherwise the digits without separators denote it. -/
def Shows (o : NumberOptions) (n : Nat) (text : String) : Prop :=
  if o.radix = .hexadecimal ∧ o.smallHexInDecimal ∧ n ≤ 9 then
    text = o.decimalPrefix ++ toString n ++ o.decimalSuffix
  else ∃ ds, text = o.numberPrefix ++ String.ofList ds ++ o.numberSuffix ∧
    Denotes o.radix.value n (removed o.digitSeparator.toList ds)

private theorem shows_render {o : NumberOptions} (ho : o.checked = .ok o) (bits n : Nat) :
    o.Shows n (o.render bits n) := by
  rw [Shows, render]
  split
  · rfl
  · refine ⟨o.body bits n, rfl, ?_⟩
    rw [removed_body ho]
    exact denotes_startedWithDigit (o.denotes_padded bits n)

/-- A number is written just if it fits its width and is not too long. -/
private theorem exists_unsigned_iff {o : NumberOptions} {bits : Nat} {v : Int} :
    (∃ text, o.unsigned bits v = .ok text) ↔
      0 ≤ v ∧ v < 2 ^ bits ∧ (o.radix = .decimal → v < 10 ^ Text.digitLimit) := by
  simp only [unsigned_eq_ok, Int.toNat_natCast, twoPower_eq]
  constructor
  · rintro ⟨-, -, ⟨hlow, hhigh⟩, hshort, -⟩
    rw [overlong_toNat_iff hlow, not_and, not_le] at hshort
    exact ⟨hlow, hhigh, hshort⟩
  · rintro ⟨hlow, hhigh, hshort⟩
    rw [← not_le, ← not_and, ← overlong_toNat_iff hlow] at hshort
    exact ⟨_, Int.natCast_nonneg bits, ⟨hlow, hhigh⟩, hshort, rfl⟩

private theorem unsigned_eq_overlong_of_le {o : NumberOptions} {bits : Nat} {v : Int} (hlow : 0 ≤ v)
    (hhigh : v < 2 ^ bits) (hradix : o.radix = .decimal) (hlong : 10 ^ Text.digitLimit ≤ v) :
    o.unsigned bits v = .error .overlong :=
  unsigned_eq_overlong (Int.natCast_nonneg bits) hlow hhigh
    ((overlong_toNat_iff hlow).mpr ⟨hradix, hlong⟩)

/-- The number whose digits are written for a signed number: its magnitude if it has a sign in front,
and its remainder otherwise. -/
def shown (o : NumberOptions) (bits : Nat) (v : Int) : Int :=
  if v < 0 ∧ o.signedNumber then -v else v % 2 ^ bits

private theorem shown_bounds (o : NumberOptions) {bits : Nat} (hbits : 1 ≤ bits) {v : Int}
    (hlow : -2 ^ (bits - 1) ≤ v) : 0 ≤ o.shown bits v ∧ o.shown bits v < 2 ^ bits := by
  have hdouble : (2 : Int) ^ bits = 2 * 2 ^ (bits - 1) := twoPower_eq_double hbits
  have hpos : (0 : Int) < 2 ^ (bits - 1) := twoPower_pos _
  rw [shown]
  split
  · omega
  · exact ⟨Int.emod_nonneg v (by omega), Int.emod_lt_of_pos v (by omega)⟩

private theorem signed_eq_map_shown (o : NumberOptions) {bits : Nat} (hbits : 1 ≤ bits) {v : Int}
    (hlow : -2 ^ (bits - 1) ≤ v) (hhigh : v < 2 ^ (bits - 1)) :
    o.signed bits v = (o.unsigned bits (o.shown bits v)).map fun text =>
      if v < 0 ∧ o.signedNumber then "-" ++ text else text := by
  have hwidth : ((bits : Int) - 1).toNat = bits - 1 := by omega
  rw [o.signed_eq_unsigned (Int.ofNat_le.mpr hbits) (hwidth ▸ hlow) (hwidth ▸ hhigh), shown]
  split
  · rfl
  · rw [Int.toNat_natCast, twoPower_eq]
    cases o.unsigned bits (v % 2 ^ bits) <;> rfl

private theorem bounds_of_signed {o : NumberOptions} {bits : Nat} (hbits : 1 ≤ bits) {v : Int}
    {text : String} (h : o.signed bits v = .ok text) : -2 ^ (bits - 1) ≤ v ∧ v < 2 ^ (bits - 1) := by
  have hwidth : ((bits : Int) - 1).toNat = bits - 1 := by omega
  obtain ⟨_, hcheck, -⟩ := Outcome.bind_eq_ok.mp h
  obtain ⟨-, hlow, hhigh⟩ := IntegerType.check_eq_ok.mp hcheck
  exact ⟨hwidth ▸ hlow, hwidth ▸ Int.lt_of_le_sub_one hhigh⟩

/-- A number is written just if it fits its width and, in decimal, does not exceed the limit on digits,
and the text shows it. For a negative number its magnitude is written after a sign, or its two's
complement. Both fit the width, so that only the limit can keep them from being written. -/
theorem written_numbers_keep_value {o : NumberOptions} (ho : o.checked = .ok o) {bits : Nat}
    (hbits : 1 ≤ bits) (v : Int) :
    ((∃ text, o.unsigned bits v = .ok text) ↔
      0 ≤ v ∧ v < 2 ^ bits ∧ (o.radix = .decimal → v < 10 ^ Text.digitLimit)) ∧
    (0 ≤ v → v < 2 ^ bits → o.radix = .decimal → 10 ^ Text.digitLimit ≤ v →
      o.unsigned bits v = .error .overlong) ∧
    (∀ text, o.unsigned bits v = .ok text → o.Shows v.toNat text) ∧
    ((∃ text, o.signed bits v = .ok text) ↔ -2 ^ (bits - 1) ≤ v ∧ v < 2 ^ (bits - 1) ∧
      (o.radix = .decimal → o.shown bits v < 10 ^ Text.digitLimit)) ∧
    (-2 ^ (bits - 1) ≤ v → v < 2 ^ (bits - 1) →
      if o.radix = .decimal ∧ 10 ^ Text.digitLimit ≤ o.shown bits v then
        o.unsigned bits (o.shown bits v) = .error .overlong ∧ o.signed bits v = .error .overlong
      else if v < 0 ∧ o.signedNumber then
        ∃ text, o.unsigned bits (-v) = .ok text ∧ o.signed bits v = .ok ("-" ++ text)
      else ∃ text, o.unsigned bits (v % 2 ^ bits) = .ok text ∧ o.signed bits v = .ok text) := by
  refine ⟨exists_unsigned_iff, unsigned_eq_overlong_of_le, fun text htext => ?_, ⟨?_, ?_⟩, ?_⟩
  · obtain ⟨-, -, -, rfl⟩ := unsigned_eq_ok.mp htext
    exact shows_render ho _ _
  · rintro ⟨text, htext⟩
    obtain ⟨hlow, hhigh⟩ := bounds_of_signed hbits htext
    rw [o.signed_eq_map_shown hbits hlow hhigh, Outcome.map_eq_ok] at htext
    obtain ⟨inner, hinner, -⟩ := htext
    exact ⟨hlow, hhigh, (exists_unsigned_iff.mp ⟨inner, hinner⟩).2.2⟩
  · rintro ⟨hlow, hhigh, hshort⟩
    obtain ⟨hpos, hfits⟩ := o.shown_bounds hbits hlow
    obtain ⟨text, htext⟩ := exists_unsigned_iff.mpr ⟨hpos, hfits, hshort⟩
    exact ⟨_, by rw [o.signed_eq_map_shown hbits hlow hhigh, htext]; rfl⟩
  · intro hlow hhigh
    obtain ⟨hpos, hfits⟩ := o.shown_bounds hbits hlow
    have hsigned := o.signed_eq_map_shown hbits hlow hhigh
    split
    · next hlong =>
      have hfails := unsigned_eq_overlong_of_le hpos hfits hlong.1 hlong.2
      exact ⟨hfails, by rw [hsigned, hfails]; rfl⟩
    · next hshort =>
      rw [not_and, not_le] at hshort
      obtain ⟨text, htext⟩ := exists_unsigned_iff.mpr ⟨hpos, hfits, hshort⟩
      rw [htext] at hsigned
      rw [shown] at htext
      split
      · next hneg => exact ⟨text, by rwa [if_pos hneg] at htext, hsigned.trans (congrArg _ (if_pos hneg))⟩
      · next hneg => exact ⟨text, by rwa [if_neg hneg] at htext, hsigned.trans (congrArg _ (if_neg hneg))⟩

/-- The magnitude of the least number is one that no signed number of the width reaches, and its digits
stand between separators of several characters. -/
theorem written_numbers_keep_value_least :
    let o : NumberOptions := {
      radix := .octal, numberPrefix := "0o", digitSeparator := "_._", groupSize := 4,
      leadingZeros := true, signedNumber := true }
    o.checked = .ok o ∧ o.signed 16 (-32768) = .ok "-0o10_._0000" ∧
      ∃ text, o.unsigned 16 32768 = .ok text ∧ o.signed 16 (-32768) = .ok ("-" ++ text) ∧
        o.Shows 32768 text := by
  intro o
  have ho : o.checked = .ok o := by cbv
  obtain ⟨-, -, -, -, hsigned⟩ := written_numbers_keep_value ho (show 1 ≤ 16 by decide) (-32768)
  obtain ⟨-, -, hshows, -⟩ := written_numbers_keep_value ho (show 1 ≤ 16 by decide) 32768
  have hwritten := hsigned (by decide) (by decide)
  rw [if_neg fun h => absurd h.1 (by decide)] at hwritten
  obtain ⟨text, hunsigned, htext⟩ := hwritten
  exact ⟨ho, by cbv, text, hunsigned, htext, hshows text hunsigned⟩

/-- If the width is large enough, minus one fits it, but its two's complement has more decimal digits
than can be written. -/
theorem minus_one_overlong {o : NumberOptions} (hradix : o.radix = .decimal)
    (hsign : o.signedNumber = false) {bits : Nat} (hwide : 10 ^ Text.digitLimit < 2 ^ bits) :
    (-2 ^ (bits - 1) ≤ (-1 : Int) ∧ (-1 : Int) < 2 ^ (bits - 1)) ∧
      o.signed bits (-1) = .error .overlong ∧
      (0 ≤ (-1 : Int) % 2 ^ bits ∧ (-1 : Int) % 2 ^ bits < 2 ^ bits) ∧
      o.unsigned bits ((-1) % 2 ^ bits) = .error .overlong := by
  have hbits : 1 ≤ bits := by
    apply Nat.pos_of_ne_zero
    rintro rfl
    exact absurd hwide (Nat.not_lt_of_le (Nat.one_le_pow _ _ (by decide)))
  have hlimit : (10 : Int) ^ Text.digitLimit < 2 ^ bits := by exact_mod_cast hwide
  have hone : (0 : Int) < 10 ^ Text.digitLimit := by positivity
  have hmod : (-1 : Int) % 2 ^ bits = 2 ^ bits - 1 := by
    rw [← Int.add_emod_right, Int.emod_eq_of_lt (by omega) (by omega)]
    ring
  have hhalf : (0 : Int) < 2 ^ (bits - 1) := by positivity
  have hlow : -2 ^ (bits - 1) ≤ (-1 : Int) := by omega
  have hhigh : (-1 : Int) < 2 ^ (bits - 1) := by omega
  have hshown : o.shown bits (-1) = (-1) % 2 ^ bits := if_neg fun h => by simp [hsign] at h
  obtain ⟨hnonneg, hfits⟩ := o.shown_bounds hbits hlow
  have hsigned := o.signed_eq_map_shown hbits hlow hhigh
  rw [hshown] at hnonneg hfits hsigned
  have hunsigned := unsigned_eq_overlong_of_le hnonneg hfits hradix (by omega)
  rw [hunsigned] at hsigned
  exact ⟨⟨hlow, hhigh⟩, hsigned, ⟨hnonneg, hfits⟩, hunsigned⟩

/-- In 14286 bits minus one fits, and so does its two's complement, but neither is written in
decimal. -/
theorem minus_one_unwritten :
    let o : NumberOptions := { radix := .decimal }
    o.checked = .ok o ∧ (-2 ^ (14286 - 1) ≤ (-1 : Int) ∧ (-1 : Int) < 2 ^ (14286 - 1)) ∧
      o.signed 14286 (-1) = .error .overlong ∧
      (0 ≤ (-1 : Int) % 2 ^ 14286 ∧ (-1 : Int) % 2 ^ 14286 < 2 ^ 14286) ∧
      o.unsigned 14286 ((-1) % 2 ^ 14286) = .error .overlong :=
  ⟨by cbv, minus_one_overlong rfl rfl (by decide +kernel)⟩

end AsmListing.NumberOptions
