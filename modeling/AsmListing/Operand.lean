import AsmListing.Error

/-! Operands of decoded instructions, and the checks that they pass when they are built. -/
namespace AsmListing

/-- What an instruction does with an operand. -/
inductive Access where
  | none | read | condRead | write | condWrite | readWrite | readCondWrite
  deriving DecidableEq, Repr, Inhabited

inductive OperandKind where
  | register | immediate | memory | nearBranch
  | unknown (name : String)
  deriving DecidableEq, Repr, Inhabited

/-- An operand of any kind. A kind reads the fields that concern it; the checked constructors below
leave the others at their defaults. -/
structure Operand where
  kind : OperandKind
  /-- In bytes; zero for memory of unstated size. -/
  size : Int := 0
  register : RegisterValue := .register .none
  immediate : Int := 0
  /-- The immediate was extended from a signed value. -/
  signed : Bool := false
  base : RegisterValue := .register .none
  index : RegisterValue := .register .none
  scale : Int := 1
  displacement : Int := 0
  segment : RegisterValue := .register .none
  target : Int := 0
  short : Bool := false
  implicit : Bool := false
  access : Access := .read
  deriving Repr, Inhabited

/-- A place in memory, as it is asked for. -/
structure MemoryPlace where
  size : Int := 0
  base : RegisterValue := .register .none
  index : RegisterValue := .register .none
  scale : Int := 1
  displacement : Int := 0
  segment : RegisterValue := .register .none
  deriving Repr, Inhabited

def RegisterValue.resolve (value : RegisterValue) : Except ArgumentError Register :=
  match value.register? with
  | some r => .ok r
  | none => .error (.unknownRegister value)

def Register.width (r : Register) : Except ArgumentError Nat :=
  match r.width? with
  | some n => .ok n
  | Option.none => .error (.unsizedRegister r)

namespace Operand

def checkSize (allowed : List Int) (size : Int) : Except ArgumentError Unit :=
  if size ∈ allowed then .ok () else .error (.operandSize size allowed)

def ofRegister (value : RegisterValue) (access : Access := .read) (implicit : Bool := false) :
    Except ArgumentError Operand := do
  let r ← value.resolve
  if r = .none then .error .absentRegister
  else
    let width ← r.width
    return { kind := .register, size := width, register := r, access, implicit }

/-- A negative value is stored as its two's complement and makes the immediate signed. -/
def ofImmediate (value : Int) (size : Int := 4) (signed : Bool := false) :
    Except ArgumentError Operand := do
  checkSize [1, 2, 4, 8] size
  let bits := (8 * size).toNat
  if -twoPower (bits - 1) ≤ value ∧ value < twoPower bits then
    return { kind := .immediate, size, immediate := value % twoPower bits,
             signed := signed || decide (value < 0) }
  else .error (.immediateRange value size)

def ofMemory (place : MemoryPlace) (access : Access := .read) (implicit : Bool := false) :
    Except ArgumentError Operand := do
  if place.size ≠ 0 then checkSize [1, 2, 4, 8, 16] place.size
  if place.scale ∉ [1, 2, 4, 8] then .error (.scale place.scale)
  let base ← place.base.resolve
  let index ← place.index.resolve
  let segment ← place.segment.resolve
  if segment ≠ .none ∧ ¬segment.isSegment then .error (.notSegment segment)
  if -twoPower 63 ≤ place.displacement ∧ place.displacement < twoPower 64 then
    return { kind := .memory, size := place.size, base, index, scale := place.scale,
             displacement := place.displacement, segment, access, implicit }
  else .error (.displacementRange place.displacement)

def ofTarget (target : Int) (size : Int := 8) (short : Bool := false) :
    Except ArgumentError Operand := do
  checkSize [2, 4, 8] size
  if 0 ≤ target ∧ target < twoPower (8 * size).toNat then
    return { kind := .nearBranch, size, target, short }
  else .error (.targetRange target size)

/-- The immediate read as a two's complement number of the operand's size. -/
def signedImmediate (op : Operand) : Except Error Int :=
  let bits := 8 * op.size
  if bits < 1 then .error .negativeWidth
  else if twoPower (bits - 1).toNat ≤ op.immediate then .ok (op.immediate - twoPower bits.toNat)
  else .ok op.immediate

end Operand

end AsmListing
