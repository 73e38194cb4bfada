import Mathlib
import AsmListing.Formatter.Instruction
import AsmListing.Proofs.Emission
import AsmListing.Proofs.Numeral.Width

/-! What formatters with checked options write for registers, numbers and displacements. -/
namespace AsmListing
open Outcome

/-- The options for the numbers of a kind, before they are checked. -/
def NumberOptions.drawn (kind : NumberKind) (o : FormatOptions) : NumberOptions where
  radix := o.radix
  numberPrefix := (o.affixes o.radix).1
  numberSuffix := (o.affixes o.radix).2
  decimalPrefix := (o.affixes .decimal).1
  decimalSuffix := (o.affixes .decimal).2
  digitSeparator := o.separator
  groupSize := o.groupSize o.radix
  uppercaseHex := o.uppercaseHex
  smallHexInDecimal := o.smallHexInDecimal
  leadingZeroBeforeHexLetter := o.leadingZeroBeforeHexLetter
  leadingZeros := match kind with
    | .immediate => o.leadingZeros
    | .displacement => o.displacementLeadingZeros
    | .branch => o.branchLeadingZeros
  signedNumber := match kind with
    | .immediate => o.signedImmediates
    | .displacement => o.signedDisplacements
    | .branch => false

/-- Options that pass their own check also pass the check for numbers. -/
theorem NumberOptions.ofFormat_eq_drawn {o : FormatOptions} (h : o.checked = .ok o)
    (kind : NumberKind) : NumberOptions.ofFormat kind o = .ok (drawn kind o) := by
  have hof : NumberOptions.ofFormat kind o = (drawn kind o).checked := rfl
  rw [hof, NumberOptions.checked]
  unfold FormatOptions.checked at h
  split at h
  · cases h
  · next hletters =>
    split at h
    · cases h
    · next hgroups => exact (if_neg hgroups).trans (if_neg hletters)

namespace Formatter

/-- The options of the formatter passed their check. -/
def Valid (f : Formatter) : Prop := f.options.checked = .ok f.options

theorem Valid.numberOptions {f : Formatter} (hf : f.Valid) (kind : NumberKind) :
    f.numberOptions kind = .ok (.drawn kind f.options) := by
  rw [Formatter.numberOptions, NumberOptions.ofFormat_eq_drawn hf]
  rfl

/-- The name of a register as the formatter writes it. -/
def registerText (f : Formatter) (r : Register) : String :=
  (if f.options.nakedRegisters then "" else f.dialect.registerPrefix) ++
    f.cased f.options.uppercaseRegisters r.name

theorem register_eq_write (f : Formatter) {r : Register} (h : r ≠ .none) :
    f.register r = .write .register (f.registerText r) := by
  have hname : f.registerName r = .ok (f.registerText r) := by
    unfold registerName
    split
    · next hnone => cases hnone
    · next hnone => exact absurd (Option.some.inj hnone) h
    · next r' hr =>
      cases hr
      rfl
  rw [register, hname]
  rfl

theorem unsignedDisplacement_bounds (op : Operand) :
    0 ≤ unsignedDisplacement op ∧ unsignedDisplacement op < twoPower 64 :=
  ⟨Int.emod_nonneg _ (twoPower_pos 64).ne', Int.emod_lt_of_pos _ (twoPower_pos 64)⟩

theorem signedDisplacement_bounds (op : Operand) :
    -twoPower 63 ≤ signedDisplacement op ∧ signedDisplacement op < twoPower 63 := by
  have hdouble : twoPower 64 = 2 * twoPower 63 := rfl
  have hbounds := unsignedDisplacement_bounds op
  simp only [signedDisplacement]
  split <;> omega

theorem unsignedDisplacement_modEq (op : Operand) :
    unsignedDisplacement op ≡ op.displacement [ZMOD 2 ^ 64] :=
  Int.mod_modEq op.displacement (2 ^ 64)

theorem signedDisplacement_modEq (op : Operand) :
    signedDisplacement op ≡ op.displacement [ZMOD 2 ^ 64] := by
  refine Int.ModEq.trans ?_ (unsignedDisplacement_modEq op)
  simp only [signedDisplacement]
  split
  · exact Int.modEq_iff_dvd.mpr ⟨1, by rw [twoPower_eq]; ring⟩
  · rfl

/-- The number in the text of a displacement: its magnitude after a minus sign, and else the
unsigned address. -/
def shownDisplacement (f : Formatter) (op : Operand) : Nat :=
  (if f.showsMinus op then -signedDisplacement op else unsignedDisplacement op).toNat

private theorem shownDisplacement_bounds (f : Formatter) (op : Operand) :
    0 ≤ (if f.showsMinus op then -signedDisplacement op else unsignedDisplacement op) ∧
      (if f.showsMinus op then -signedDisplacement op else unsignedDisplacement op) < twoPower 64 := by
  have hunsigned := unsignedDisplacement_bounds op
  have hsigned := signedDisplacement_bounds op
  have hpower : twoPower 63 < twoPower 64 := by decide
  split
  · next hminus =>
    simp only [showsMinus, Bool.and_eq_true, decide_eq_true_eq] at hminus
    omega
  · exact hunsigned

theorem shownDisplacement_lt (f : Formatter) (op : Operand) : f.shownDisplacement op < 2 ^ 64 :=
  (Int.toNat_lt (f.shownDisplacement_bounds op).1).mpr (f.shownDisplacement_bounds op).2

theorem displacement_eq_write {f : Formatter} (hf : f.Valid) (op : Operand) :
    f.displacement op = .write .number
      ((NumberOptions.drawn .displacement f.options).render 64 (f.shownDisplacement op)) := by
  have hshown := f.shownDisplacement_bounds op
  have htext := NumberOptions.unsigned_eq_render (.drawn .displacement f.options)
    (show 0 ≤ (64 : Int) by decide) hshown.1 hshown.2
    (NumberOptions.not_overlong_of_lt _ le_rfl hshown.2)
  rw [displacement, hf.numberOptions]
  exact congrArg (Emission.writeOf .number) htext

private theorem immediateText_eq_signedText {f : Formatter} (hf : f.Valid) {op : Operand}
    (hsize : 1 ≤ op.size) (hmost : op.size ≤ 8) (hlow : 0 ≤ op.immediate)
    (hhigh : op.immediate < twoPower (8 * op.size).toNat) :
    f.immediateText op = .ok (if op.signed then
      (NumberOptions.drawn .immediate f.options).signedText (8 * op.size)
        (if twoPower (8 * op.size - 1).toNat ≤ op.immediate then
          op.immediate - twoPower (8 * op.size).toNat else op.immediate)
      else (NumberOptions.drawn .immediate f.options).render (8 * op.size).toNat
        op.immediate.toNat) := by
  have hdouble : twoPower (8 * op.size).toNat = 2 * twoPower (8 * op.size - 1).toNat := by
    rw [twoPower_eq_double (by omega), show (8 * op.size - 1).toNat = (8 * op.size).toNat - 1 by omega]
  refine bind_eq_ok.mpr ⟨_, hf.numberOptions .immediate, ?_⟩
  split
  · refine bind_eq_ok.mpr ⟨_, Operand.signedImmediate_eq_ok hsize, ?_⟩
    apply NumberOptions.signed_eq_signedText _ (by omega) (by omega)
    · split <;> omega
    · split <;> omega
  · exact NumberOptions.unsigned_eq_render _ (by omega) hlow hhigh
      (NumberOptions.not_overlong_of_lt _ (by omega) hhigh)

/-- The integer that is shown for an immediate. It is negative just if the immediate is signed, signs
are shown, and the highest bit is set. -/
def shownImmediate (f : Formatter) (op : Operand) : Int :=
  if op.signed ∧ f.options.signedImmediates ∧ twoPower (8 * op.size - 1).toNat ≤ op.immediate then
    op.immediate - twoPower (8 * op.size).toNat
  else op.immediate

/-- The text of an immediate is made of the sign and the magnitude of the integer that is shown. -/
theorem immediateText_eq_ok {f : Formatter} (hf : f.Valid) {op : Operand} (hsize : 1 ≤ op.size)
    (hmost : op.size ≤ 8) (hlow : 0 ≤ op.immediate) (hhigh : op.immediate < twoPower (8 * op.size).toNat) :
    let o := NumberOptions.drawn .immediate f.options
    f.immediateText op = .ok (if f.shownImmediate op < 0 then
      "-" ++ o.render (8 * op.size).toNat (-f.shownImmediate op).toNat
      else o.render (8 * op.size).toNat (f.shownImmediate op).toNat) := by
  intro o
  have hshown : o.signedNumber = f.options.signedImmediates := rfl
  have hself : op.immediate % twoPower (8 * op.size).toNat = op.immediate :=
    Int.emod_eq_of_lt hlow hhigh
  rw [immediateText_eq_signedText hf hsize hmost hlow hhigh, NumberOptions.signedText, hshown]
  unfold shownImmediate
  by_cases hlarge : twoPower (8 * op.size - 1).toNat ≤ op.immediate
  · have hneg : op.immediate - twoPower (8 * op.size).toNat < 0 := by omega
    cases op.signed <;> cases f.options.signedImmediates <;>
      simp only [hlarge, hneg, Int.not_lt.mpr hlow, Int.sub_emod_right, hself, true_and, and_true, and_self,
        Bool.false_eq_true, if_true, if_false, o]
  · simp only [hlarge, Int.not_lt.mpr hlow, hself, and_false, false_and, if_false, ite_self, o]

theorem nearBranch_eq_append {f : Formatter} (hf : f.Valid) {op : Operand} (hsize : 0 ≤ op.size)
    (hmost : op.size ≤ 8) (hlow : 0 ≤ op.target) (hhigh : op.target < twoPower (8 * op.size).toNat) :
    f.nearBranch op =
      .when (op.short && f.options.showBranchSize && f.dialect.shortKeyword) (f.keyword "short") ++
      .write .address ((NumberOptions.drawn .branch f.options).render (8 * op.size).toNat
        op.target.toNat) := by
  have htext := NumberOptions.unsigned_eq_render (.drawn .branch f.options)
    (show 0 ≤ 8 * op.size by omega) hlow hhigh (NumberOptions.not_overlong_of_lt _ (by omega) hhigh)
  rw [nearBranch, hf.numberOptions]
  exact congrArg (fun text => _ ++ Emission.writeOf .address text) htext

end Formatter
end AsmListing
