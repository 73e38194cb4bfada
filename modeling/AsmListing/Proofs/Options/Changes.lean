import Mathlib
import AsmListing.NumberOptions
import AsmListing.Proofs.Outcome

/-! When options pass their checks. Changes made one after the other are one change, in which the later
value of an option counts. -/
namespace AsmListing
open Outcome

theorem Radix.ofDatum_integer {n : Int} {r : Radix} :
    Radix.ofDatum (.integer n) = .ok r ↔ n = r.value := by
  constructor
  · intro h
    simp only [ofDatum, Datum.number?] at h
    split at h
    all_goals cases h
    all_goals next hn => exact Option.some.inj hn
  · rintro rfl
    cases r <;> rfl

theorem newCount_or {option : String} {present n : Nat} {first second : Option Int}
    (h : newCount option present first = .ok n) :
    newCount option present (second.or first) = newCount option n second := by
  cases second with
  | none => exact h
  | some k => rfl

theorem newRadix_or {present r : Radix} {first second : Option Datum}
    (h : newRadix present first = .ok r) :
    newRadix present (second.or first) = newRadix r second := by
  cases second with
  | none => exact h
  | some value => rfl

/-- A digit separator that can be taken for digits, or that has no groups to separate. -/
def FaultySeparator (separator : String) (groupSize : Nat) : Prop :=
  separator.toList.any Text.isAlphanumeric ∨ (separator ≠ "" ∧ groupSize = 0)
  deriving Decidable

theorem NumberOptions.checked_eq_ok {o o' : NumberOptions} :
    o.checked = .ok o' ↔ ¬FaultySeparator o.digitSeparator o.groupSize ∧ o = o' := by
  rw [checked, ite_error_eq_ok, ite_error_eq_ok, Except.ok.injEq, FaultySeparator, or_comm, not_or,
    and_assoc]

namespace FormatOptions
variable {o o' : FormatOptions} {first second : Changes}

theorem checked_eq_ok :
    o.checked = .ok o' ↔ ¬FaultySeparator o.separator (o.groupSize o.radix) ∧ o = o' := by
  rw [checked, ite_error_eq_ok, ite_error_eq_ok, Except.ok.injEq, FaultySeparator, not_or, and_assoc]

theorem change_eq_ok {c : Changes} : o.change c = .ok o' ↔
    o.updated c = .ok o' ∧ ¬FaultySeparator o'.separator (o'.groupSize o'.radix) := by
  rw [change, bind_eq_ok]
  simp only [checked_eq_ok]
  constructor
  · rintro ⟨p, hp, hseparator, rfl⟩
    exact ⟨hp, hseparator⟩
  · rintro ⟨hp, hseparator⟩
    exact ⟨o', hp, hseparator, rfl⟩

/-- Both changes at once. -/
def Changes.followedBy (first second : Changes) : Changes where
  uppercasePrefixes := second.uppercasePrefixes.or first.uppercasePrefixes
  uppercaseMnemonics := second.uppercaseMnemonics.or first.uppercaseMnemonics
  uppercaseRegisters := second.uppercaseRegisters.or first.uppercaseRegisters
  uppercaseKeywords := second.uppercaseKeywords.or first.uppercaseKeywords
  uppercaseDecorators := second.uppercaseDecorators.or first.uppercaseDecorators
  uppercaseAll := second.uppercaseAll.or first.uppercaseAll
  radix := second.radix.or first.radix
  uppercaseHex := second.uppercaseHex.or first.uppercaseHex
  hexPrefix := second.hexPrefix.or first.hexPrefix
  hexSuffix := second.hexSuffix.or first.hexSuffix
  decimalPrefix := second.decimalPrefix.or first.decimalPrefix
  decimalSuffix := second.decimalSuffix.or first.decimalSuffix
  octalPrefix := second.octalPrefix.or first.octalPrefix
  octalSuffix := second.octalSuffix.or first.octalSuffix
  binaryPrefix := second.binaryPrefix.or first.binaryPrefix
  binarySuffix := second.binarySuffix.or first.binarySuffix
  digitSeparator := second.digitSeparator.or first.digitSeparator
  hexGroupSize := second.hexGroupSize.or first.hexGroupSize
  decimalGroupSize := second.decimalGroupSize.or first.decimalGroupSize
  octalGroupSize := second.octalGroupSize.or first.octalGroupSize
  binaryGroupSize := second.binaryGroupSize.or first.binaryGroupSize
  leadingZeros := second.leadingZeros.or first.leadingZeros
  displacementLeadingZeros := second.displacementLeadingZeros.or first.displacementLeadingZeros
  branchLeadingZeros := second.branchLeadingZeros.or first.branchLeadingZeros
  signedImmediates := second.signedImmediates.or first.signedImmediates
  signedDisplacements := second.signedDisplacements.or first.signedDisplacements
  smallHexInDecimal := second.smallHexInDecimal.or first.smallHexInDecimal
  leadingZeroBeforeHexLetter :=
    second.leadingZeroBeforeHexLetter.or first.leadingZeroBeforeHexLetter
  firstOperandColumn := second.firstOperandColumn.or first.firstOperandColumn
  spaceAfterSeparator := second.spaceAfterSeparator.or first.spaceAfterSeparator
  spaceInsideBrackets := second.spaceInsideBrackets.or first.spaceInsideBrackets
  spaceAroundAdd := second.spaceAroundAdd.or first.spaceAroundAdd
  spaceAroundMul := second.spaceAroundMul.or first.spaceAroundMul
  showBranchSize := second.showBranchSize.or first.showBranchSize
  showMemorySize := second.showMemorySize.or first.showMemorySize
  nakedRegisters := second.nakedRegisters.or first.nakedRegisters

theorem updated_followedBy (h : o.updated first = .ok o') :
    o.updated (first.followedBy second) = o'.updated second := by
  simp only [updated, bind_eq_ok] at h
  obtain ⟨radix, hradix, hex, hhex, decimal, hdecimal, octal, hoctal, binary, hbinary, column, hcolumn,
    h⟩ := h
  cases h
  simp only [updated, Changes.followedBy, newRadix_or hradix, newCount_or hhex, newCount_or hdecimal,
    newCount_or hoctal, newCount_or hbinary, newCount_or hcolumn, Option.getD_or]

/-- Changing what has been changed is the same as changing it at once, also where it fails. -/
theorem change_followedBy (h : o.change first = .ok o') :
    o.change (first.followedBy second) = o'.change second := by
  rw [change, updated_followedBy (change_eq_ok.mp h).1, change]

end FormatOptions
end AsmListing
