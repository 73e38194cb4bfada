import Mathlib
import AsmListing.Proofs.Formatter.MemoryParts
import AsmListing.Proofs.Formatter.MemoryTokens
import AsmListing.Proofs.Reader.Operands

/-! Formatting fails only where it has to: when the dialect has no way to write a rounding control,
or when an operand is asked for that is not shown. -/
namespace AsmListing

/-- All operands of the instruction were returned by their constructors. -/
def Instruction.Built (i : Instruction) : Prop := ∀ op ∈ i.operands, op.Built

namespace Formatter
open Emission Outcome

/-- The instruction has a rounding control that the dialect cannot write. -/
def Inexpressible (f : Formatter) (i : Instruction) : Prop :=
  i.rounding ≠ none ∧ f.dialect.decorator = .unsupported

private theorem failure_register (f : Formatter) {r : Register} (h : r ≠ .none) :
    (f.register r).failure = none := by
  rw [f.register_eq_ofTokens h]
  exact failure_ofTokens _

private theorem parts_succeed {f : Formatter} (hf : f.Valid) {op : Operand}
    {base index segment : Register} (hbase : op.base = base) (hindex : op.index = index)
    (hsegment : op.segment = segment) : f.Parts op fun e => e.failure = none where
  toClosed := closed_succeeds
  write _ _ := rfl
  register h hpresent := by
    simp only [hbase, hindex, hsegment, List.mem_cons, List.not_mem_nil, or_false] at h
    rcases h with rfl | rfl | rfl
    all_goals
      rw [RegisterValue.isAbsent_register] at hpresent
      exact f.failure_register (by simpa using hpresent)
  displacement := by
    rw [displacement_eq_write hf]
    rfl

theorem failure_memory {f : Formatter} (hf : f.Valid) {op : Operand} {base index segment : Register}
    (hbase : op.base = base) (hindex : op.index = index) (hsegment : op.segment = segment) :
    (f.memory op).failure = none :=
  (parts_succeed hf hbase hindex hsegment).memory (fun _ => rfl) fun _ => rfl

private theorem failure_immediate {f : Formatter} (hf : f.Valid) {op : Operand} (hsize : 1 ≤ op.size)
    (hmost : op.size ≤ 8) (hlow : 0 ≤ op.immediate)
    (hhigh : op.immediate < twoPower (8 * op.size).toNat) : (f.immediate op).failure = none := by
  rw [immediate, immediateText_eq_ok hf hsize hmost hlow hhigh]
  exact failure_append_eq_none.mpr ⟨failure_when_eq_none.mpr fun _ => rfl, rfl⟩

theorem failure_realOperand {f : Formatter} (hf : f.Valid) {op : Operand} (h : op.Built) :
    (f.realOperand op).failure = none := by
  cases h with
  | register h =>
    obtain ⟨r, n, -, hn, rfl⟩ := Operand.ofRegister_eq_ok.mp h
    exact f.failure_register (Register.ne_none_of_width? hn)
  | @immediate _ size _ h =>
    obtain ⟨hsize, -, rfl⟩ := Operand.ofImmediate_eq_ok.mp h
    have hpos := twoPower_pos (8 * size).toNat
    exact failure_immediate hf (Operand.one_le_of_mem hsize) (Operand.le_eight_of_mem hsize)
      (Int.emod_nonneg _ hpos.ne') (Int.emod_lt_of_pos _ hpos)
  | memory h =>
    obtain ⟨base, index, segment, -, -, -, -, rfl⟩ := Operand.ofMemory_eq_ok.mp h
    exact failure_memory hf rfl rfl rfl
  | @branch _ size _ h =>
    obtain ⟨hsize, ⟨hlow, hhigh⟩, rfl⟩ := Operand.ofTarget_eq_ok.mp h
    have hbounds : 0 ≤ size ∧ size ≤ 8 := by
      simp only [List.mem_cons, List.not_mem_nil, or_false] at hsize
      omega
    rw [realOperand, nearBranch_eq_append hf hbounds.1 hbounds.2 hlow hhigh]
    exact failure_append_eq_none.mpr ⟨failure_when_eq_none.mpr fun _ => rfl, rfl⟩

/-- The slots of the operands that are shown, in the order of the instruction. -/
def operandSlots (f : Formatter) (i : Instruction) : List Slot :=
  (i.operands.zipIdx.filter fun x => f.dialect.showImplicit || !x.1.implicit).map fun x =>
    .operand x.2

/-- The slots are those of the operands, in one order or the other, and that of a rounding control. -/
private theorem mem_operandSlots {f : Formatter} {i : Instruction} {k : Int}
    (h : Slot.operand k ∈ f.slots i) : Slot.operand k ∈ f.operandSlots i := by
  have hordered : Slot.operand k ∈ (if f.dialect.reverseOperands then (f.operandSlots i).reverse
      else f.operandSlots i) := by
    rw [slots] at h
    cases hr : i.rounding with
    | none =>
      rw [hr] at h
      exact h
    | some r =>
      rw [hr] at h
      cases hd : f.dialect.decorator with
      | first =>
        rw [hd] at h
        exact List.mem_of_ne_of_mem Slot.noConfusion h
      | last =>
        rw [hd] at h
        exact (List.mem_append.mp h).resolve_right (by simp)
      | unsupported =>
        rw [hd] at h
        exact h
  split at hordered
  · exact List.mem_reverse.mp hordered
  · exact hordered

/-- A slot shows an operand of the instruction or a rounding control. -/
theorem operand_of_mem_slots {f : Formatter} {i : Instruction} {k : Int}
    (h : Slot.operand k ∈ f.slots i) : ∃ op ∈ i.operands, i.operand k = .ok op := by
  obtain ⟨⟨op, n⟩, hmem, hk⟩ := List.mem_map.mp (mem_operandSlots h)
  have hget := List.mem_zipIdx_iff_getElem?.mp (List.mem_filter.mp hmem).1
  cases hk
  refine ⟨op, List.mem_of_getElem? hget, ?_⟩
  rw [Instruction.operand, if_neg (by simp), Int.toNat_natCast, hget]

theorem failure_slot {f : Formatter} (hf : f.Valid) {i : Instruction} (hi : i.Built) {s : Slot}
    (hs : s ∈ f.slots i) : (f.slot i s).failure = none := by
  cases s with
  | synthetic op => rfl
  | operand k =>
    obtain ⟨op, hop, hk⟩ := operand_of_mem_slots hs
    rw [slot, hk]
    exact failure_realOperand hf (hi op hop)

theorem checkRounding_of_expressible {f : Formatter} {i : Instruction} (h : ¬f.Inexpressible i) :
    f.checkRounding i = {} := by
  unfold checkRounding
  split
  · next hr hd => exact absurd ⟨by simp [hr], hd⟩ h
  · rfl

theorem checkRounding_of_inexpressible {f : Formatter} {i : Instruction} (h : f.Inexpressible i) :
    ∃ cause, f.checkRounding i = .fail (.unsupported cause) := by
  obtain ⟨hr, hd⟩ := h
  obtain ⟨r, hr⟩ := Option.ne_none_iff_exists'.mp hr
  rw [checkRounding, hr, hd]
  exact ⟨_, rfl⟩

/-- The operand at a position is what its slot shows. -/
theorem operand_eq_slot {f : Formatter} {i : Instruction} (h : ¬f.Inexpressible i) {n : Nat}
    (hn : n < (f.slots i).length) : f.operand i n = f.slot i ((f.slots i).get ⟨n, hn⟩) := by
  have hslot : (f.layout i).slot n = .ok ((f.slots i).get ⟨n, hn⟩) := by
    rw [Layout.slot, Layout.slot?, if_neg (by omega), layout, Int.toNat_natCast,
      List.getElem?_eq_getElem hn]
    rfl
  rw [operand, checkRounding_of_expressible h, empty_append, hslot]
  rfl

theorem failure_operand {f : Formatter} (hf : f.Valid) {i : Instruction} (hi : i.Built)
    (h : ¬f.Inexpressible i) {k : Int} (hlow : 0 ≤ k) (hhigh : k < f.operandCount i) :
    (f.operand i k).failure = none := by
  obtain ⟨n, rfl⟩ := Int.eq_ofNat_of_zero_le hlow
  have hn : n < (f.slots i).length := Int.ofNat_lt.mp hhigh
  rw [operand_eq_slot h hn]
  exact failure_slot hf hi (List.get_mem _ _)

private theorem operand_out_of_range {f : Formatter} {i : Instruction} (h : ¬f.Inexpressible i)
    {k : Int} (hk : ¬(0 ≤ k ∧ k < f.operandCount i)) :
    ∃ cause, f.operand i k = .fail (.argument cause) := by
  have hslot : (f.layout i).slot? k = none := by
    rw [Layout.slot?]
    split
    · rfl
    · rw [List.getElem?_eq_none_iff, ← Layout.size, ← operandCount]
      omega
  rw [operand, checkRounding_of_expressible h, empty_append, Layout.slot, hslot]
  exact ⟨_, rfl⟩

theorem failure_separator (f : Formatter) : f.separator.failure = none :=
  failure_append_eq_none.mpr ⟨rfl, failure_when_eq_none.mpr fun _ => rfl⟩

/-- Without a rounding control in the way, an instruction is its mnemonic and then its operands. -/
theorem instruction_eq_append {f : Formatter} {i : Instruction} (h : ¬f.Inexpressible i) :
    f.instruction i = f.mnemonic i ++ f.operandList i := by
  rw [instruction, mnemonicThenOperands, allOperands, checkRounding_of_expressible h, empty_append,
    empty_append]

private theorem failure_instruction {f : Formatter} (hf : f.Valid) {i : Instruction} (hi : i.Built)
    (h : ¬f.Inexpressible i) : (f.instruction i).failure = none := by
  have hoperands : (f.operandList i).failure = none := by
    refine closed_succeeds.join f.failure_separator fun e he => ?_
    obtain ⟨k, hk, rfl⟩ := List.mem_map.mp he
    exact failure_operand hf hi h (by omega) (by simpa using hk)
  rw [instruction_eq_append h]
  exact failure_append_eq_none.mpr ⟨rfl, hoperands⟩

/-- With checked options an instruction of built operands is written unless its rounding control
cannot be, which shows before anything is written. Single operands are written just at the positions
of the layout. All this concerns every instruction that is read. -/
theorem formatting_fails_iff {f : Formatter} (hf : f.Valid) :
    (∀ i : Instruction, i.Built →
      ((f.instruction i).failure ≠ none ↔ f.Inexpressible i) ∧
      (f.Inexpressible i → ∃ cause, f.instruction i = .fail (.unsupported cause) ∧
        f.allOperands i = .fail (.unsupported cause) ∧
        ∀ k, f.operand i k = .fail (.unsupported cause)) ∧
      (¬f.Inexpressible i → ∀ k : Int,
        ((f.operand i k).failure = none ↔ 0 ≤ k ∧ k < f.operandCount i) ∧
        (¬(0 ≤ k ∧ k < f.operandCount i) → ∃ cause, f.operand i k = .fail (.argument cause)))) ∧
    ∀ (text : String) (i : Instruction), Instruction.read text = .ok i → i.Built := by
  refine ⟨fun i hi => ⟨⟨fun hfail => ?_, fun h => ?_⟩, fun h => ?_, fun h k => ⟨⟨fun hk => ?_, ?_⟩, ?_⟩⟩,
    fun text i hread op hop => ?_⟩
  · by_contra h
    exact hfail (failure_instruction hf hi h)
  · obtain ⟨cause, hc⟩ := checkRounding_of_inexpressible h
    rw [instruction, hc]
    exact Option.some_ne_none _
  · obtain ⟨cause, hc⟩ := checkRounding_of_inexpressible h
    refine ⟨cause, ?_, ?_, fun k => ?_⟩
    · rw [instruction, hc, fail_append]
    · rw [allOperands, hc, fail_append]
    · rw [operand, hc, fail_append]
  · by_contra hout
    obtain ⟨cause, hc⟩ := operand_out_of_range h hout
    rw [hc] at hk
    cases hk
  · exact fun hk => failure_operand hf hi h hk.1 hk.2
  · exact operand_out_of_range h
  · obtain ⟨s, -, hs⟩ := Instruction.read_eq_ok.mp hread
    exact (Sentence.readable_operands hs op hop).built

theorem formatting_fails_iff_masm_rounding :
    let f : Formatter := ⟨.masm, .masm⟩
    let i : Instruction := { mnemonic := "vaddps", rounding := some .nearest, operands := [
      { kind := .register, size := 16, register := .register .xmm1 },
      { kind := .memory, base := .register .rax, displacement := -9223372036854775808 }] }
    f.Valid ∧ i.Built ∧ f.Inexpressible i ∧ (f.instruction i).tokens = [] ∧
      (f.instruction { i with rounding := none }).failure = none := by
  intro f i
  have hi : i.Built := by
    intro op hop
    rcases List.mem_cons.mp hop with rfl | hop
    · exact .register (show Operand.ofRegister (.register .xmm1) .read false = .ok _ from rfl)
    · rw [List.mem_singleton.mp hop]
      exact .memory (show Operand.ofMemory
        { base := .register .rax, displacement := -9223372036854775808 } .read false = .ok _ from rfl)
  obtain ⟨cause, hc, -⟩ := ((formatting_fails_iff (f := f) rfl).1 i hi).2.1 ⟨by decide, rfl⟩
  refine ⟨rfl, hi, ⟨by decide, rfl⟩, by rw [hc]; rfl, ?_⟩
  by_contra hfail
  exact (((formatting_fails_iff (f := f) rfl).1 { i with rounding := none } hi).1.mp hfail).1 rfl

end Formatter
end AsmListing
