import AsmListing.Error

/-! The radices in which numbers are written. -/
namespace AsmListing

inductive Radix where
  | binary | octal | decimal | hexadecimal
  deriving DecidableEq, Repr, Inhabited

namespace Radix

def value : Radix → Nat
  | .binary => 2 | .octal => 8 | .decimal => 10 | .hexadecimal => 16

/-- The bits that one digit stands for, where that is a whole number. -/
def bitsPerDigit? : Radix → Option Nat
  | .binary => some 1 | .octal => some 3 | .decimal => none | .hexadecimal => some 4

def ofDatum (value : Datum) : Except ConfigurationError Radix :=
  match value.number? with
  | some 2 => .ok .binary
  | some 8 => .ok .octal
  | some 10 => .ok .decimal
  | some 16 => .ok .hexadecimal
  | _ => .error (.radix value)

end Radix

end AsmListing
