import Mathlib
import AsmListing.Proofs.Formatter.MemoryTokens

/-! Memory operands that are written alike. The displacement counts modulo 2⁶⁴, the scale only if there is
an index, and between brackets an index that stands alone without a factor is the same as a base. -/
namespace AsmListing

namespace Operand

/-- The operand with an index that stands alone without a factor as its base. -/
def promoted (op : Operand) : Operand :=
  if op.base.isAbsent ∧ op.scale = 1 then { op with base := op.index, index := .register .none } else op

/-- The same base and index, and the same scale if there is an index. -/
structure SameRegisters (op op' : Operand) : Prop where
  base : op.base = op'.base
  index : op.index = op'.index
  scale : op.index.isAbsent = false → op.scale = op'.scale

/-- Only base and index are changed. -/
theorem promoted_rest (op : Operand) : op.promoted.size = op.size ∧ op.promoted.segment = op.segment ∧
    op.promoted.displacement = op.displacement := by
  unfold promoted
  split <;> exact ⟨rfl, rfl, rfl⟩

end Operand

namespace Formatter
open Emission Operand
variable {op op' : Operand}

private theorem signedDisplacement_congr (h : unsignedDisplacement op = unsignedDisplacement op') :
    signedDisplacement op = signedDisplacement op' := by
  rw [signedDisplacement, signedDisplacement, h]

/-- How a displacement is written depends on its value modulo 2⁶⁴ and on whether there are registers. -/
private theorem displacement_congr (f : Formatter) (hregisters : hasRegisters op = hasRegisters op')
    (h : unsignedDisplacement op = unsignedDisplacement op') :
    f.showsMinus op = f.showsMinus op' ∧ f.displacement op = f.displacement op' := by
  have hsigned := signedDisplacement_congr h
  have hminus : f.showsMinus op = f.showsMinus op' := by
    rw [showsMinus, showsMinus, hregisters, hsigned]
  exact ⟨hminus, by rw [displacement, displacement, hminus, hsigned, h]⟩

private theorem displacementTerm_congr (f : Formatter) (hregisters : hasRegisters op = hasRegisters op')
    (h : unsignedDisplacement op = unsignedDisplacement op') :
    f.displacementTerm op = f.displacementTerm op' := by
  obtain ⟨hminus, hdisplacement⟩ := f.displacement_congr hregisters h
  rw [displacementTerm, displacementTerm, hregisters, hminus, hdisplacement, signedDisplacement_congr h]

private theorem hasRegisters_congr (h : SameRegisters op op') : hasRegisters op = hasRegisters op' := by
  rw [hasRegisters, hasRegisters, h.base, h.index]

/-- Operands with the same parts are written alike in brackets. -/
theorem bracketed_congr (f : Formatter) (hsize : op.size = op'.size) (hsegment : op.segment = op'.segment)
    (hregisters : SameRegisters op op') (h : unsignedDisplacement op = unsignedDisplacement op') :
    f.bracketed op = f.bracketed op' := by
  have hsum : f.registerSum op = f.registerSum op' := by
    rw [registerSum, registerSum, hregisters.base, ← hregisters.index]
    cases hindex : op.index.isAbsent with
    | true => rfl
    | false => rw [hregisters.scale hindex]
  rw [bracketed, bracketed, sizeKeywords, sizeKeywords, segment, segment, hsize, hsegment, hsum,
    f.displacementTerm_congr (hasRegisters_congr hregisters) h]

/-- Operands with the same parts are written alike around parentheses, where sizes are not shown. -/
theorem parenthesized_congr (f : Formatter) (hsegment : op.segment = op'.segment)
    (hregisters : SameRegisters op op') (h : unsignedDisplacement op = unsignedDisplacement op') :
    f.parenthesized op = f.parenthesized op' := by
  have hsome := hasRegisters_congr hregisters
  obtain ⟨hminus, hdisplacement⟩ := f.displacement_congr hsome h
  rw [parenthesized, parenthesized, segment, segment, hsegment, hsome, hminus, hdisplacement,
    signedDisplacement_congr h, hregisters.base, ← hregisters.index]
  cases hindex : op.index.isAbsent with
  | true => rfl
  | false => rw [hregisters.scale hindex]

theorem memory_congr (f : Formatter) (hsize : op.size = op'.size) (hsegment : op.segment = op'.segment)
    (hregisters : SameRegisters op op') (h : unsignedDisplacement op = unsignedDisplacement op') :
    f.memory op = f.memory op' := by
  rw [memory, memory]
  split
  · exact f.parenthesized_congr hsegment hregisters h
  · exact f.bracketed_congr hsize hsegment hregisters h

/-- An index that stands alone without a factor is written as a base is. -/
theorem bracketed_promoted (f : Formatter) (op : Operand) : f.bracketed op.promoted = f.bracketed op := by
  rw [promoted]
  split
  · next halone =>
    obtain ⟨hbase, hscale⟩ := halone
    have hregisters : hasRegisters { op with base := op.index, index := .register .none } =
        hasRegisters op := by
      rw [hasRegisters, hasRegisters, hbase]
      exact Bool.or_comm ..
    have hsum : f.registerSum { op with base := op.index, index := .register .none } =
        f.registerSum op := by
      simp [registerSum, hbase, hscale, RegisterValue.isAbsent_register]
    have hterm := f.displacementTerm_congr hregisters rfl
    rw [bracketed, bracketed, hsum, hterm]
    rfl
  · rfl

end Formatter
end AsmListing
