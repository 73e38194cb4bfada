import AsmListing.NumberOptions
import AsmListing.Numeral.Digits

/-! Numbers as text. -/
namespace AsmListing

namespace IntegerType

/-- Let an integer of the type through. -/
def check (t : IntegerType) (value : Int) : Except Error Unit :=
  if ¬t.HasWidth then .error .negativeWidth
  else if t.Holds value then .ok ()
  else .error (.argument (.integerRange t value))

end IntegerType

namespace NumberOptions

/-- The digits of a number of the given width, padded, grouped and started with a decimal digit as
the options ask. -/
def body (o : NumberOptions) (bits n : Nat) : List Char :=
  let ds := Numeral.digits o.radix (o.radix = .hexadecimal && o.uppercaseHex) n
  let padded := match o.radix.bitsPerDigit? with
    | some k => if o.leadingZeros then ds.leftpad ((bits + k - 1) / k) '0' else ds
    | none => ds
  let grouped := Numeral.grouped o.digitSeparator.toList o.groupSize padded
  if o.radix = .hexadecimal ∧ o.leadingZeroBeforeHexLetter ∧ o.numberPrefix = "" ∧
      grouped.head?.any Char.isAlpha then '0' :: grouped
  else grouped

def render (o : NumberOptions) (bits n : Nat) : String :=
  if o.radix = .hexadecimal ∧ o.smallHexInDecimal ∧ n ≤ 9 then
    o.decimalPrefix ++ toString n ++ o.decimalSuffix
  else o.numberPrefix ++ String.ofList (o.body bits n) ++ o.numberSuffix

/-- The number has too many digits to be written. Only decimal digits are limited. -/
def Overlong (o : NumberOptions) (n : Nat) : Prop := o.radix = .decimal ∧ Text.Overlong n

instance (o : NumberOptions) (n : Nat) : Decidable (o.Overlong n) := by
  unfold Overlong; infer_instance

def unsigned (o : NumberOptions) (bits value : Int) : Except Error String := do
  IntegerType.check ⟨false, bits⟩ value
  if o.Overlong value.toNat then .error .overlong
  else return o.render bits.toNat value.toNat

/-- A negative number is shown by its sign and magnitude, or else as its two's complement. -/
def signed (o : NumberOptions) (bits value : Int) : Except Error String := do
  IntegerType.check ⟨true, bits⟩ value
  if value < 0 then
    if o.signedNumber then return "-" ++ (← o.unsigned bits (-value))
    else o.unsigned bits (value + twoPower bits.toNat)
  else o.unsigned bits value

/-- The text of a value that should be an integer of the given type. -/
def format (o : NumberOptions) (type : IntegerType) (value : Datum) : Except Error String :=
  match value with
  | .integer n => if type.signed then o.signed type.bits n else o.unsigned type.bits n
  | other =>
    if type.HasWidth then .error (.argument (.notInteger type other)) else .error .negativeWidth

end NumberOptions

end AsmListing
