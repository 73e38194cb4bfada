import AsmListing.Operand

/-! Which operands are written, and in what order. A slot shows an operand of the instruction or an
operand that exists only in the text. -/
namespace AsmListing

structure SyntheticOperand where
  text : String
  access : Access := .none
  deriving DecidableEq, Repr, Inhabited

inductive Slot where
  | operand (index : Int)
  | synthetic (op : SyntheticOperand)
  deriving DecidableEq, Repr, Inhabited

structure Layout where
  slots : List Slot
  deriving DecidableEq, Repr, Inhabited

namespace Layout

/-- Check the slots that follow `earlier`: they refer to operands of the instruction, and to none of
them twice. -/
def check (count : Int) (earlier : List Slot) : List Slot → Except ArgumentError Unit
  | [] => .ok ()
  | .synthetic op :: rest => check count (earlier ++ [.synthetic op]) rest
  | .operand k :: rest =>
    if k < 0 ∨ count ≤ k then .error (.slotRange earlier.length k count)
    else match earlier.idxOf? (.operand k) with
      | some first => .error (.slotRepeated k first earlier.length)
      | none => check count (earlier ++ [.operand k]) rest

def build (slots : List Slot) (count : Int) : Except ArgumentError Layout := do
  check count [] slots
  return ⟨slots⟩

/-- All operands of an instruction in their own order. -/
def identity (count : Int) : Layout :=
  ⟨(List.range count.toNat).map fun (k : Nat) => .operand k⟩

def size (l : Layout) : Nat := l.slots.length

def slot? (l : Layout) (position : Int) : Option Slot :=
  if position < 0 then none else l.slots[position.toNat]?

def slot (l : Layout) (position : Int) : Except ArgumentError Slot :=
  match l.slot? position with
  | some s => .ok s
  | none => .error (.renderedOperand position l.size)

def instructionOperand? (l : Layout) (position : Int) : Option Int :=
  match l.slot? position with
  | some (.operand k) => some k
  | _ => none

/-- The position at which an operand of the instruction is written. -/
def renderedOperand? (l : Layout) (operand : Int) : Option Int :=
  (l.slots.idxOf? (.operand operand)).map Int.ofNat

def synthetic? (l : Layout) (position : Int) : Option SyntheticOperand :=
  match l.slot? position with
  | some (.synthetic op) => some op
  | _ => none

def access? (l : Layout) (position : Int) : Option Access :=
  (l.synthetic? position).map SyntheticOperand.access

end Layout

end AsmListing
