import AsmListing.Datum
import AsmListing.Register

/-! What stands where a register is asked for: a register, or some value given in its place. -/
namespace AsmListing

inductive RegisterValue where
  | register (r : Register)
  | unchecked (value : Datum)
  deriving Repr, Inhabited

instance : Coe Register RegisterValue := ⟨.register⟩

namespace RegisterValue

/-- A number stands for the register that has it. -/
def register? : RegisterValue → Option Register
  | .register r => some r
  | .unchecked value => value.number?.bind Register.ofNumber?

/-- Only the register `none` itself means that there is no register; its number does not. -/
def isAbsent : RegisterValue → Bool
  | .register .none => true
  | _ => false

def display : RegisterValue → Option String
  | .register r => some r.display
  | .unchecked value => value.display

end RegisterValue

end AsmListing
