import Mathlib
import AsmListing.Proofs.Formatter.Written
import AsmListing.Proofs.Numeral.Forms
import AsmListing.Proofs.Numeral.Separation

/-! The numbers that the presets write. Their marks tell the radix, so that the reader takes each of
them whole and for the number that was written. -/
namespace AsmListing

namespace FormatOptions
variable {o preset : FormatOptions}

/-- The presets of the dialects. -/
def presets : List FormatOptions := [.intel, .masm, .nasm, .gas]

/-- The options mark numbers as the preset does and do not separate their digits. -/
structure MarksAs (o preset : FormatOptions) : Prop where
  affixes : o.affixes = preset.affixes
  unseparated : o.separator = ""
  leadingZero : o.leadingZeroBeforeHexLetter = true

/-- In the radix, numbers of the preset are marked as the reader expects it. -/
def Marks (preset : FormatOptions) (radix : Radix) : Prop :=
  radix = .hexadecimal ∨ radix = .decimal ∨ radix = .binary ∧ preset = .gas

theorem MarksAs.checked (h : o.MarksAs preset) : o.checked = .ok o := by
  have hsound : ¬FaultySeparator "" (o.groupSize o.radix) := by
    rintro (hletters | ⟨hne, -⟩)
    · cases hletters
    · exact hne rfl
  exact checked_eq_ok.mpr ⟨h.unseparated ▸ hsound, rfl⟩

/-- Three of the presets are one. -/
private theorem eq_of_mem_presets (h : preset ∈ presets) : preset = .intel ∨ preset = .gas := by
  simp only [presets, List.mem_cons, List.not_mem_nil, or_false] at h
  rcases h with rfl | rfl | rfl | rfl
  · exact .inl rfl
  · exact .inl rfl
  · exact .inl rfl
  · exact .inr rfl

/-- Options that mark numbers as a preset does write numbers as the reader takes them. -/
theorem MarksAs.legible (h : o.MarksAs preset) (hpreset : preset ∈ presets) (hradix : preset.Marks o.radix)
    (kind : NumberKind) : (NumberOptions.drawn kind o).Legible := by
  have hdecimal : o.affixes .decimal = ("", "") := by
    rw [h.affixes]
    rcases eq_of_mem_presets hpreset with rfl | rfl <;> rfl
  refine ⟨h.unseparated, congrArg Prod.fst hdecimal, congrArg Prod.snd hdecimal, ?_⟩
  simp only [NumberOptions.drawn]
  rcases hradix with hr | hr | ⟨hr, rfl⟩
  · rw [hr, h.affixes]
    rcases eq_of_mem_presets hpreset with rfl | rfl
    · exact .inr ⟨rfl, rfl, h.leadingZero⟩
    · exact .inl ⟨rfl, rfl⟩
  · rw [hr, hdecimal]
    exact ⟨rfl, rfl⟩
  · rw [hr, h.affixes]
    exact ⟨rfl, rfl⟩

/-- How numbers look: their radix, the case of hexadecimal digits, whether small numbers are shown in
decimal, and which kinds of numbers are padded. -/
structure NumberStyle where
  radix : Radix := .hexadecimal
  uppercaseHex : Bool := true
  smallHexInDecimal : Bool := true
  leadingZeros : Bool := false
  displacementLeadingZeros : Bool := false
  branchLeadingZeros : Bool := true
  deriving DecidableEq, Repr, Inhabited

/-- The options with another style of numbers. -/
def restyled (o : FormatOptions) (style : NumberStyle) : FormatOptions :=
  { o with
    radix := style.radix
    uppercaseHex := style.uppercaseHex
    smallHexInDecimal := style.smallHexInDecimal
    leadingZeros := style.leadingZeros
    displacementLeadingZeros := style.displacementLeadingZeros
    branchLeadingZeros := style.branchLeadingZeros }

theorem restyled_marksAs (hpreset : preset ∈ presets) (style : NumberStyle) :
    (preset.restyled style).MarksAs preset := by
  rcases eq_of_mem_presets hpreset with rfl | rfl
  · exact ⟨rfl, rfl, rfl⟩
  · exact ⟨rfl, rfl, rfl⟩

/-- Under a preset in another style, every number that fits its width is written unless it has too many
decimal digits. Its text is a match of the expression for numbers, the reader takes all of it, and it is
read as the number. -/
theorem preset_numbers_read_back (hpreset : preset ∈ presets) (style : NumberStyle)
    (hradix : preset.Marks style.radix) (kind : NumberKind) (bits : Nat) {v : Int} (hlow : 0 ≤ v)
    (hhigh : v < 2 ^ bits) :
    (preset.restyled style).checked = .ok (preset.restyled style) ∧
    ∃ o, NumberOptions.ofFormat kind (preset.restyled style) = .ok o ∧
      if style.radix = .decimal ∧ 10 ^ Text.digitLimit ≤ v then o.unsigned bits v = .error .overlong
      else ∃ text, o.unsigned bits v = .ok text ∧ Terminal.number.pattern.Matches [] text.toList [] ∧
        Terminal.number.length? text.toList = some text.toList.length ∧ readNumber text = .ok v := by
  have hmarks := restyled_marksAs hpreset style
  have hoverlong : (NumberOptions.drawn kind (preset.restyled style)).Overlong v.toNat ↔
      style.radix = .decimal ∧ 10 ^ Text.digitLimit ≤ v :=
    NumberOptions.overlong_toNat_iff hlow
  refine ⟨hmarks.checked, _, NumberOptions.ofFormat_eq_drawn hmarks.checked kind, ?_⟩
  split
  · next hlong =>
    exact NumberOptions.unsigned_eq_overlong (Int.natCast_nonneg bits) hlow hhigh (hoverlong.mpr hlong)
  · next hshort =>
    rw [← hoverlong] at hshort
    have hlegible := hmarks.legible hpreset hradix kind
    have hspells := hlegible.spells bits v.toNat
    have hread := hspells.readNumber (hlegible.not_tooLong hshort bits)
    rw [String.ofList_toList, Int.toNat_of_nonneg hlow] at hread
    exact ⟨_, NumberOptions.unsigned_eq_render _ (Int.natCast_nonneg bits) hlow hhigh hshort,
      hspells.matches_number, hspells.length?_number, hread⟩

/-- A hexadecimal number that starts like a binary one, and a binary number that is padded. -/
theorem preset_numbers_read_back_lookalike :
    (∃ o, NumberOptions.ofFormat .immediate (FormatOptions.nasm.restyled {}) = .ok o ∧
      o.unsigned 8 0xB1 = .ok "0B1h" ∧ Terminal.number.length? "0B1h".toList = some 4 ∧
      readNumber "0B1h" = .ok 0xB1) ∧
    ∃ o, NumberOptions.ofFormat .branch (FormatOptions.gas.restyled { radix := .binary }) = .ok o ∧
      o.unsigned 6 5 = .ok "0b000101" ∧ Terminal.number.length? "0b000101".toList = some 8 ∧
      readNumber "0b000101" = .ok 5 := by
  have hnasm : FormatOptions.nasm ∈ presets := by simp [presets]
  have hgas : FormatOptions.gas ∈ presets := by simp [presets]
  obtain ⟨-, o, ho, hwritten⟩ := preset_numbers_read_back hnasm {} (.inl rfl)
    .immediate 8 (v := 0xB1) (by decide) (by decide)
  obtain ⟨-, o', ho', hwritten'⟩ := preset_numbers_read_back hgas
    { radix := .binary } (.inr (.inr ⟨rfl, rfl⟩)) .branch 6 (v := 5) (by decide) (by decide)
  rw [if_neg fun h => nomatch h.1] at hwritten hwritten'
  obtain ⟨text, htext, -, hlength, hread⟩ := hwritten
  obtain ⟨text', htext', -, hlength', hread'⟩ := hwritten'
  have hhex : o.unsigned 8 0xB1 = .ok "0B1h" := by
    cases ho
    cbv
  have hbinary : o'.unsigned 6 5 = .ok "0b000101" := by
    cases ho'
    cbv
  cases htext.symm.trans hhex
  cases htext'.symm.trans hbinary
  exact ⟨⟨o, ho, hhex, hlength, hread⟩, o', ho', hbinary, hlength', hread'⟩

/-- The largest number of 14286 bits, which is also the two's complement of minus one, has too many
decimal digits to be written. -/
theorem largest_decimal_unwritten :
    FormatOptions.intel ∈ presets ∧ FormatOptions.intel.Marks .decimal ∧
    ∃ o, NumberOptions.ofFormat .branch (FormatOptions.intel.restyled { radix := .decimal }) = .ok o ∧
      (0 ≤ (-1 : Int) % 2 ^ 14286 ∧ (-1 : Int) % 2 ^ 14286 < 2 ^ 14286) ∧
      o.unsigned 14286 ((-1) % 2 ^ 14286) = .error .overlong ∧
      o.signed 14286 (-1) = .error .overlong := by
  have hintel : FormatOptions.intel ∈ presets := List.mem_cons_self
  have hmarks := restyled_marksAs hintel { radix := .decimal }
  obtain ⟨-, hsigned, hfits, hunsigned⟩ := NumberOptions.minus_one_overlong
    (o := .drawn .branch (FormatOptions.intel.restyled { radix := .decimal })) rfl rfl
    (show 10 ^ Text.digitLimit < 2 ^ 14286 by decide +kernel)
  exact ⟨hintel, .inr (.inl rfl), _, NumberOptions.ofFormat_eq_drawn hmarks.checked .branch, hfits,
    hunsigned, hsigned⟩

end FormatOptions
end AsmListing
