import Mathlib
import AsmListing.Proofs.Formatter.MemoryForms
import AsmListing.Proofs.RoundTrip.Mnemonics
import AsmListing.Proofs.RoundTrip.Canonical

/-! Written texts are fixed points: what is read from a written text is written as the same tokens. -/
namespace AsmListing
namespace Formatter
variable {d : Dialect} {signed : Bool} {i : Instruction} {mnemonic : String} {size : Int} {op : Operand}

/-- The normal form has the registers of the operand, an index that stands alone as its base. -/
private theorem sameRegisters_reread (hkind : op.kind = .memory) :
    (op.reread signed).SameRegisters op.promoted := by
  rw [Operand.reread, hkind, Operand.promoted]
  by_cases halone : op.base.isAbsent ∧ op.scale = 1
  · constructor <;> simp [halone, RegisterValue.isAbsent_register]
  · have halone' : (op.base.isAbsent && decide (op.scale = 1)) = false := by simpa using halone
    constructor <;> simp +contextual [halone, halone']

private theorem unsignedDisplacement_reread (hkind : op.kind = .memory) :
    unsignedDisplacement (op.reread signed) = unsignedDisplacement op := by
  rw [Operand.reread, hkind]
  show (if hasRegisters op then signedDisplacement op else unsignedDisplacement op) % twoPower 64 =
    op.displacement % twoPower 64
  split
  · exact signedDisplacement_modEq op
  · exact unsignedDisplacement_modEq op

private theorem bracketed_reread (f : Formatter) (hkind : op.kind = .memory) :
    f.bracketed (op.reread signed) = f.bracketed op := by
  obtain ⟨hsize, hsegment, hdisplacement⟩ := op.promoted_rest
  have hsize' := (op.reread_kind_size signed).2
  have hsegment' : (op.reread signed).segment = op.segment := by
    rw [Operand.reread, hkind]
  have hvalue : unsignedDisplacement op.promoted = unsignedDisplacement op := by
    rw [unsignedDisplacement, unsignedDisplacement, hdisplacement]
  rw [← f.bracketed_promoted op]
  exact f.bracketed_congr (hsize'.trans hsize.symm) (hsegment'.trans hsegment.symm)
    (sameRegisters_reread hkind) ((unsignedDisplacement_reread hkind).trans hvalue.symm)

/-- An operand that can be read is written as its normal form is. -/
private theorem realOperand_reread (hd : d.Plain) (h : op.Readable mnemonic size) :
    (plain d signed).realOperand (op.reread signed) = (plain d signed).realOperand op := by
  cases h with
  | register | branch => rfl
  | @immediate value negative hplain hsize hlow hhigh hsigned =>
    have htext := @immediateText_plain d signed size value negative hsize hlow hhigh hsigned
    have htext' := @immediateText_plain d signed size value (negative && signed) hsize hlow hhigh
      fun hboth => hsigned (Bool.and_eq_true_iff.mp hboth).1
    rw [Bool.and_assoc, Bool.and_self] at htext'
    exact (immediate_eq_write hd htext').trans (immediate_eq_write hd htext).symm
  | memory =>
    have hstyle : (plain d signed).dialect.memoryStyle = .intel := hd.memoryStyle
    have hmemory (op : Operand) : (plain d signed).memory op = (plain d signed).bracketed op := by
      rw [memory, hstyle]
    exact (hmemory _).trans ((bracketed_reread _ rfl).trans (hmemory _).symm)

private theorem implicit_reread (h : op.Readable mnemonic size) : (op.reread signed).implicit = false := by
  cases h <;> rfl

/-- An instruction is written as its normal form is. -/
theorem instruction_reread (hd : d.Plain) (hround : ¬(plain d signed).Inexpressible i)
    (hshown : ∀ op ∈ i.operands, d.showImplicit || !op.implicit)
    (hops : ∀ op ∈ i.operands, op.Readable i.mnemonic (Operand.immediateSize i.operands)) :
    (plain d signed).instruction (i.reread signed) = (plain d signed).instruction i := by
  have hround' : ¬(plain d signed).Inexpressible (i.reread signed) := hround
  have hshown' : ∀ op ∈ (i.reread signed).operands, d.showImplicit || !op.implicit := by
    intro op' hop'
    obtain ⟨op, hop, rfl⟩ := List.mem_map.mp hop'
    rw [implicit_reread (hops op hop)]
    exact Bool.or_true _
  have hslots : ((plain d signed).slots (i.reread signed)).map ((plain d signed).slot (i.reread signed)) =
      ((plain d signed).slots i).map ((plain d signed).slot i) := by
    rw [map_slot_eq hd.reverseOperands hd.decorator hround' hshown',
      map_slot_eq hd.reverseOperands hd.decorator hround hshown]
    congr 1
    rw [Instruction.reread, List.map_map]
    exact List.map_congr_left fun op hop => realOperand_reread hd (hops op hop)
  have hlist : (plain d signed).operandList (i.reread signed) = (plain d signed).operandList i := by
    rw [operandList_eq_join hround', operandList_eq_join hround, hslots]
  have hcount : (plain d signed).operandCount (i.reread signed) = (plain d signed).operandCount i := by
    have hlength := congrArg List.length hslots
    rw [List.length_map, List.length_map] at hlength
    exact hlength
  have hmnemonic : (plain d signed).mnemonicTokens (i.reread signed) {} =
      (plain d signed).mnemonicTokens i {} := by
    rw [mnemonicTokens, mnemonicTokens, hcount]
    rfl
  rw [instruction, instruction, mnemonicThenOperands, mnemonicThenOperands, allOperands, allOperands,
    checkRounding_of_expressible hround', checkRounding_of_expressible hround, hlist, mnemonic, mnemonic,
    hmnemonic]

/-- The text of the instruction is read as its normal form, which is written as the same tokens. -/
def Settles (f : Formatter) (i : Instruction) : Prop :=
  (f.instruction i).failure = none ∧ Instruction.read (f.instruction i).text = .ok (i.reread false) ∧
    f.instruction (i.reread false) = f.instruction i

private theorem settles_of_read (hd : d.Plain) {text : String} (hascii : Text.IsAscii text.toList)
    (h : Instruction.read text = .ok i) (hround : ¬(plain d false).Inexpressible i)
    (hshown : ∀ op ∈ i.operands, d.showImplicit || !op.implicit) : (plain d false).Settles i := by
  have hm := Instruction.isPlainMnemonic_of_read hascii h
  obtain ⟨s, -, hs⟩ := Instruction.read_eq_ok.mp h
  have hops := Sentence.readable_operands hs
  have hp : i.prefixes.Known := by
    obtain ⟨-, -, -, -, -, -, -, rfl⟩ := Sentence.instruction_eq_ok.mp hs
    exact PrefixMask.known_prefixMask _
  obtain ⟨hfailure, hread⟩ := read_instruction hd hm hp hround hshown hops
  exact ⟨hfailure, hread, instruction_reread hd hround hshown hops⟩

end Formatter

theorem Dialect.masm_plain : Dialect.masm.Plain := ⟨rfl, rfl, rfl, rfl, rfl, by decide⟩

/-- Of any instruction read from an ASCII text, the written text is a fixed point of reading and
writing: in the Intel dialect if no operand is implicit, and in the MASM dialect, which shows implicit
operands, if there is no rounding control. -/
theorem Instruction.settles_of_read_ascii {text : String} (hascii : Text.IsAscii text.toList)
    {i : Instruction} (h : Instruction.read text = .ok i) :
    ((∀ op ∈ i.operands, op.implicit = false) → (Formatter.ofDialect .intel none).Settles i) ∧
      (i.rounding = none → (Formatter.ofDialect .masm none).Settles i) := by
  constructor
  · intro hexplicit
    refine Formatter.settles_of_read Dialect.intel_plain hascii h (fun hnot => ?_) fun op hop => ?_
    · exact absurd hnot.2 (by decide)
    · simp [hexplicit op hop]
  · intro hround
    refine Formatter.settles_of_read Dialect.masm_plain hascii h (fun hnot => ?_) fun op hop => ?_
    · simpa [hround] using hnot.1
    · rfl

set_option maxRecDepth 2000 in
/-- Repeated prefixes, a scaled absent register, lone indices times one and negative numbers are all
normalized at once. -/
theorem Instruction.settles_of_read_ascii_normalizing :
    let vector : Instruction :=
      { mnemonic := "vaddps", prefixes := ⟨3⟩, rounding := some .down
        operands := [
          { kind := .memory, size := 4, index := .register .rcx, displacement := -8,
            segment := .register .gs },
          { kind := .immediate, size := 4, immediate := 0xffffff80, signed := true }] }
    let product : Instruction :=
      { mnemonic := "mul"
        operands := [
          { kind := .memory, size := 1, index := .register .rcx, displacement := -1, implicit := true },
          { kind := .immediate, size := 1, immediate := 0xff, signed := true }] }
    Instruction.read "REP lock rep VaddPS \x7brd-sae\x7d, dword ptr gs : [none*4 - 8 + rcx*1], -128" =
        .ok vector ∧
      (Formatter.ofDialect .intel none).Settles vector ∧
      Instruction.read "mul <byte ptr [rcx*1-1]>, -1" = .ok product ∧
      (Formatter.ofDialect .masm none).Settles product := by
  intro vector product
  have hvector : Instruction.read
      "REP lock rep VaddPS \x7brd-sae\x7d, dword ptr gs : [none*4 - 8 + rcx*1], -128" = .ok vector := rfl
  have hproduct : Instruction.read "mul <byte ptr [rcx*1-1]>, -1" = .ok product := rfl
  have hascii : ∀ text ∈ ["REP lock rep VaddPS \x7brd-sae\x7d, dword ptr gs : [none*4 - 8 + rcx*1], -128",
      "mul <byte ptr [rcx*1-1]>, -1"], (text.toList.all fun c => c.toNat < 128) = true := by
    decide +kernel
  simp only [List.forall_mem_cons, List.all_eq_true, decide_eq_true_eq] at hascii
  exact ⟨hvector, (Instruction.settles_of_read_ascii hascii.1 hvector).1 (by simp [vector]), hproduct,
    (Instruction.settles_of_read_ascii hascii.2.1 hproduct).2 rfl⟩

end AsmListing
