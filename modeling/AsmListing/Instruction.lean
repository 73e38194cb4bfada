import AsmListing.Operand

/-! Decoded instructions: a mnemonic with operands, prefixes and a rounding control. -/
namespace AsmListing

inductive Prefix where
  | lock | rep | repe | repne
  deriving DecidableEq, Repr, Inhabited

namespace Prefix

/-- In the order in which prefixes are written. -/
def all : List Prefix := [.lock, .rep, .repe, .repne]

def word : Prefix → String
  | .lock => "lock" | .rep => "rep" | .repe => "repe" | .repne => "repne"

def bit : Prefix → Int
  | .lock => 1 | .rep => 2 | .repe => 4 | .repne => 8

def ofWord? (s : String) : Option Prefix := all.find? fun p => p.word == s

end Prefix

/-- The prefixes of an instruction as a bit mask. Bits that belong to no prefix are kept. -/
structure PrefixMask where
  bits : Int := 0
  deriving DecidableEq, Repr, Inhabited

namespace PrefixMask

def has (mask : PrefixMask) (p : Prefix) : Bool := mask.bits / p.bit % 2 == 1

def insert (mask : PrefixMask) (p : Prefix) : PrefixMask :=
  if mask.has p then mask else ⟨mask.bits + p.bit⟩

/-- The known prefixes in the mask, in writing order. -/
def toList (mask : PrefixMask) : List Prefix := Prefix.all.filter mask.has

end PrefixMask

inductive Rounding where
  | nearest | down | up | towardZero
  deriving DecidableEq, Repr, Inhabited

namespace Rounding

def all : List Rounding := [.nearest, .down, .up, .towardZero]

def word : Rounding → String
  | .nearest => "rn-sae" | .down => "rd-sae" | .up => "ru-sae" | .towardZero => "rz-sae"

def ofWord? (s : String) : Option Rounding := all.find? fun r => r.word == s

/-- The rounding control as it stands among the operands. -/
def decorator (r : Rounding) : String := "\x7b" ++ r.word ++ "\x7d"

end Rounding

structure Instruction where
  mnemonic : String
  operands : List Operand := []
  prefixes : PrefixMask := {}
  rounding : Option Rounding := none
  deriving Repr, Inhabited

namespace Instruction

def operand (i : Instruction) (index : Int) : Except ArgumentError Operand :=
  if index < 0 then .error (.instructionOperand index i.operands.length)
  else match i.operands[index.toNat]? with
    | some op => .ok op
    | none => .error (.instructionOperand index i.operands.length)

def access (i : Instruction) (index : Int) : Except ArgumentError Access :=
  (i.operand index).map Operand.access

end Instruction

end AsmListing
