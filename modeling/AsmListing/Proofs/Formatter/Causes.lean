import Mathlib
import AsmListing.Proofs.Formatter.MemoryParts
import AsmListing.Proofs.Formatter.Written

/-! With what the operations of a formatter fail. If its options passed their check, the cause is never
in the options. -/
namespace AsmListing

/-- The cause is not in the options. -/
def Error.IsForeign : Error → Prop
  | .configuration _ => False
  | _ => True

namespace Emission
variable {P : Error → Prop} {a b e : Emission}

/-- The errors that end the writing have a property. -/
def OnlyFails (P : Error → Prop) (e : Emission) : Prop := ∀ cause, e.failure = some cause → P cause

theorem onlyFails_of_succeeds (h : e.failure = none) : e.OnlyFails P := by
  intro cause hcause
  rw [h] at hcause
  cases hcause

theorem onlyFails_fail {cause : Error} (h : P cause) : (fail cause).OnlyFails P := by
  rintro _ ⟨⟩
  exact h

theorem OnlyFails.append (ha : a.OnlyFails P) (hb : b.OnlyFails P) : (a ++ b).OnlyFails P := by
  intro cause hcause
  rw [failure_append, Option.or_eq_some_iff] at hcause
  rcases hcause with hcause | ⟨-, hcause⟩
  · exact ha cause hcause
  · exact hb cause hcause

theorem closed_onlyFails (P : Error → Prop) : Closed (OnlyFails P) :=
  ⟨onlyFails_of_succeeds rfl, OnlyFails.append⟩

theorem onlyFails_ofExcept {α : Type} {x : Except Error α} {next : α → Emission}
    (hx : Outcome.OnlyFails P x) (hnext : ∀ a, (next a).OnlyFails P) : (ofExcept x next).OnlyFails P := by
  cases x with
  | ok a => exact hnext a
  | error cause => exact onlyFails_fail (hx cause rfl)

theorem onlyFails_write (cls : TokenClass) (text : String) : (write cls text).OnlyFails P :=
  onlyFails_of_succeeds rfl

theorem onlyFails_writeOf {cls : TokenClass} {text : Except Error String}
    (h : Outcome.OnlyFails P text) : (writeOf cls text).OnlyFails P :=
  onlyFails_ofExcept h (onlyFails_write cls)

end Emission

open Outcome

section Numbers
variable (o : NumberOptions) (bits value : Int)

private theorem onlyFails_check (t : IntegerType) :
    OnlyFails Error.IsForeign (t.check value) := by
  rw [IntegerType.check]
  split
  · exact onlyFails_error trivial
  · split
    · exact onlyFails_ok ()
    · exact onlyFails_error trivial

theorem NumberOptions.onlyFails_unsigned :
    OnlyFails Error.IsForeign (o.unsigned bits value) :=
  (onlyFails_check value _).bind fun _ =>
    onlyFails_ite (fun _ => onlyFails_error trivial) fun _ => onlyFails_ok _

theorem NumberOptions.onlyFails_signed :
    OnlyFails Error.IsForeign (o.signed bits value) := by
  refine (onlyFails_check value _).bind fun _ => ?_
  split
  · split
    · exact (o.onlyFails_unsigned _ _).bind fun _ => onlyFails_ok _
    · exact o.onlyFails_unsigned _ _
  · exact o.onlyFails_unsigned _ _

theorem NumberOptions.onlyFails_format (type : IntegerType) (value : Datum) :
    OnlyFails Error.IsForeign (o.format type value) := by
  fun_cases NumberOptions.format o type value
  · exact o.onlyFails_signed _ _
  · exact o.onlyFails_unsigned _ _
  · exact onlyFails_error trivial
  · exact onlyFails_error trivial

end Numbers

namespace Formatter
open Emission
variable {f : Formatter}

private theorem onlyFails_numberOptions (hf : f.Valid) (kind : NumberKind) :
    Outcome.OnlyFails Error.IsForeign (f.numberOptions kind) := by
  rw [hf.numberOptions]
  exact onlyFails_ok _

private theorem onlyFails_register (f : Formatter) (value : RegisterValue) :
    (f.register value).OnlyFails Error.IsForeign :=
  onlyFails_writeOf (onlyFails_mapError fun _ => trivial)

private theorem parts_onlyFail (hf : f.Valid) (op : Operand) :
    f.Parts op (Emission.OnlyFails Error.IsForeign) where
  toClosed := closed_onlyFails _
  write _ _ := onlyFails_write _ _
  register _ _ := f.onlyFails_register _
  displacement :=
    onlyFails_writeOf ((onlyFails_numberOptions hf _).bind fun o => o.onlyFails_unsigned _ _)

private theorem onlyFails_immediate (hf : f.Valid) (op : Operand) :
    (f.immediate op).OnlyFails Error.IsForeign := by
  have hsigned : Outcome.OnlyFails Error.IsForeign op.signedImmediate := by
    fun_cases Operand.signedImmediate op
    · exact onlyFails_error trivial
    · exact onlyFails_ok _
    · exact onlyFails_ok _
  have htext : Outcome.OnlyFails Error.IsForeign (f.immediateText op) := by
    refine (onlyFails_numberOptions hf _).bind fun o => ?_
    split
    · exact hsigned.bind fun n => o.onlyFails_signed _ n
    · exact o.onlyFails_unsigned _ _
  refine onlyFails_ofExcept htext fun _ => OnlyFails.append ?_ (onlyFails_write _ _)
  exact (closed_onlyFails _).when fun _ => onlyFails_write _ _

private theorem onlyFails_nearBranch (hf : f.Valid) (op : Operand) :
    (f.nearBranch op).OnlyFails Error.IsForeign := by
  refine OnlyFails.append ?_ (onlyFails_writeOf ?_)
  · exact (closed_onlyFails _).when fun _ => (parts_onlyFail hf op).keyword "short"
  · exact (onlyFails_numberOptions hf _).bind fun o => o.onlyFails_unsigned _ _

private theorem onlyFails_slot (hf : f.Valid) (i : Instruction) (s : Slot) :
    (f.slot i s).OnlyFails Error.IsForeign := by
  cases s with
  | synthetic op => exact onlyFails_write _ _
  | operand k =>
    refine onlyFails_ofExcept (onlyFails_mapError fun _ => trivial) fun op => ?_
    rw [realOperand]
    split
    · exact f.onlyFails_register op.register
    · exact onlyFails_immediate hf op
    · exact onlyFails_nearBranch hf op
    · exact (parts_onlyFail hf op).memory (onlyFails_write _) (onlyFails_write _)
    · exact onlyFails_fail trivial

private theorem onlyFails_checkRounding (f : Formatter) (i : Instruction) :
    (f.checkRounding i).OnlyFails Error.IsForeign := by
  rw [checkRounding]
  split
  · exact onlyFails_fail trivial
  · exact onlyFails_of_succeeds rfl

private theorem onlyFails_operand (hf : f.Valid) (i : Instruction) (position : Int) :
    (f.operand i position).OnlyFails Error.IsForeign :=
  (f.onlyFails_checkRounding i).append <|
    onlyFails_ofExcept (onlyFails_mapError fun _ => trivial) (onlyFails_slot hf i)

private theorem onlyFails_separator (f : Formatter) : f.separator.OnlyFails Error.IsForeign :=
  (onlyFails_write _ _).append ((closed_onlyFails _).when fun _ => onlyFails_write _ _)

private theorem onlyFails_operandList (hf : f.Valid) (i : Instruction) :
    (f.operandList i).OnlyFails Error.IsForeign := by
  refine (closed_onlyFails _).join f.onlyFails_separator fun e he => ?_
  obtain ⟨k, -, rfl⟩ := List.mem_map.mp he
  exact onlyFails_operand hf i k

/-- What a formatter can be asked for. -/
inductive Operation where
  | mnemonic (parts : MnemonicParts)
  | operand (position : Int)
  | separator
  | operandList
  | allOperands
  | mnemonicThenOperands
  | instruction
  | register (value : RegisterValue)
  | integer (type : IntegerType) (value : Datum) (options : Option NumberOptions)

/-- With what an operation on an instruction fails, if it does. -/
def failure? (f : Formatter) (i : Instruction) : Operation → Option Error
  | .mnemonic parts => (f.mnemonic i parts).failure
  | .operand position => (f.operand i position).failure
  | .separator => f.separator.failure
  | .operandList => (f.operandList i).failure
  | .allOperands => (f.allOperands i).failure
  | .mnemonicThenOperands => (f.mnemonicThenOperands i).failure
  | .instruction => (f.instruction i).failure
  | .register value => (f.register value).failure
  | .integer type value options =>
    (Emission.writeOf .number (f.formatInteger type value options)).failure

/-- No operation fails for options that passed their check, on any instruction. -/
theorem isForeign_of_failure? (hf : f.Valid) {i : Instruction} {op : Operation} {e : Error}
    (h : f.failure? i op = some e) : e.IsForeign := by
  have hmnemonic (parts : MnemonicParts) : (f.mnemonic i parts).OnlyFails Error.IsForeign :=
    onlyFails_of_succeeds rfl
  have hall : (f.allOperands i).OnlyFails Error.IsForeign :=
    (f.onlyFails_checkRounding i).append (onlyFails_operandList hf i)
  have hboth : (f.mnemonicThenOperands i).OnlyFails Error.IsForeign := (hmnemonic {}).append hall
  cases op with
  | mnemonic parts => exact hmnemonic parts e h
  | operand position => exact onlyFails_operand hf i position e h
  | separator => exact f.onlyFails_separator e h
  | operandList => exact onlyFails_operandList hf i e h
  | allOperands => exact hall e h
  | mnemonicThenOperands => exact hboth e h
  | instruction => exact (f.onlyFails_checkRounding i).append hboth e h
  | register value => exact f.onlyFails_register value e h
  | integer type value options =>
    have hoptions : Outcome.OnlyFails Error.IsForeign
        (options.elim (f.numberOptions .immediate) .ok) := by
      cases options with
      | none => exact onlyFails_numberOptions hf _
      | some o => exact onlyFails_ok o
    exact onlyFails_writeOf (hoptions.bind fun o => o.onlyFails_format type value) e h

end Formatter
end AsmListing
