/-! Integers of a given width, signed or not. -/
namespace AsmListing

/-- Powers of two bound the integers of a width. -/
def twoPower (n : Nat) : Int := Int.pow 2 n

structure IntegerType where
  signed : Bool
  bits : Int
  deriving DecidableEq, Repr

namespace IntegerType

def name (t : IntegerType) : String := (if t.signed then "int" else "uint") ++ toString t.bits

def least (t : IntegerType) : Int := if t.signed then -twoPower (t.bits - 1).toNat else 0

def greatest (t : IntegerType) : Int :=
  if t.signed then twoPower (t.bits - 1).toNat - 1 else twoPower t.bits.toNat - 1

/-- A signed integer has at least its sign bit, and no width is negative. -/
def HasWidth (t : IntegerType) : Prop := if t.signed then 1 ≤ t.bits else 0 ≤ t.bits

instance (t : IntegerType) : Decidable t.HasWidth := by unfold HasWidth; infer_instance

def Holds (t : IntegerType) (value : Int) : Prop := t.least ≤ value ∧ value ≤ t.greatest

instance (t : IntegerType) (value : Int) : Decidable (t.Holds value) := by
  unfold Holds; infer_instance

end IntegerType

end AsmListing
