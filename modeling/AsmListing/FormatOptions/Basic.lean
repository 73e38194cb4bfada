import AsmListing.Numeral.Radix
import AsmListing.Text.CharClass

/-! The options of a formatter, their defaults, and the presets of the dialects. -/
namespace AsmListing

structure FormatOptions where
  uppercasePrefixes : Bool := false
  uppercaseMnemonics : Bool := false
  uppercaseRegisters : Bool := false
  uppercaseKeywords : Bool := false
  uppercaseDecorators : Bool := false
  uppercaseAll : Bool := false
  radix : Radix := .hexadecimal
  uppercaseHex : Bool := true
  hexPrefix : Option String := none
  hexSuffix : Option String := none
  decimalPrefix : Option String := none
  decimalSuffix : Option String := none
  octalPrefix : Option String := none
  octalSuffix : Option String := none
  binaryPrefix : Option String := none
  binarySuffix : Option String := none
  digitSeparator : Option String := none
  hexGroupSize : Nat := 4
  decimalGroupSize : Nat := 3
  octalGroupSize : Nat := 4
  binaryGroupSize : Nat := 4
  leadingZeros : Bool := false
  displacementLeadingZeros : Bool := false
  branchLeadingZeros : Bool := true
  signedImmediates : Bool := false
  signedDisplacements : Bool := true
  smallHexInDecimal : Bool := true
  leadingZeroBeforeHexLetter : Bool := true
  /-- The column at which the first operand starts, if the mnemonic leaves room. -/
  firstOperandColumn : Nat := 0
  spaceAfterSeparator : Bool := false
  spaceInsideBrackets : Bool := false
  spaceAroundAdd : Bool := false
  spaceAroundMul : Bool := false
  showBranchSize : Bool := true
  showMemorySize : Bool := true
  nakedRegisters : Bool := false
  deriving DecidableEq, Repr, Inhabited

namespace FormatOptions

def intel : FormatOptions :=
  { hexSuffix := some "h", octalSuffix := some "o", binarySuffix := some "b" }

def masm : FormatOptions := intel

def nasm : FormatOptions := intel

def gas : FormatOptions :=
  { hexPrefix := some "0x", octalPrefix := some "0", binaryPrefix := some "0b" }

/-- What stands before and after a number in the given radix. -/
def affixes (o : FormatOptions) : Radix → String × String
  | .hexadecimal => (o.hexPrefix.getD "", o.hexSuffix.getD "")
  | .decimal => (o.decimalPrefix.getD "", o.decimalSuffix.getD "")
  | .octal => (o.octalPrefix.getD "", o.octalSuffix.getD "")
  | .binary => (o.binaryPrefix.getD "", o.binarySuffix.getD "")

def groupSize (o : FormatOptions) : Radix → Nat
  | .hexadecimal => o.hexGroupSize
  | .decimal => o.decimalGroupSize
  | .octal => o.octalGroupSize
  | .binary => o.binaryGroupSize

def separator (o : FormatOptions) : String := o.digitSeparator.getD ""

/-- Let the options through if their digit separator cannot be taken for digits and has groups to
separate. -/
def checked (o : FormatOptions) : Except ConfigurationError FormatOptions :=
  if o.separator.toList.any Text.isAlphanumeric then
    .error (.ambiguousSeparator o.separator)
  else if o.separator ≠ "" ∧ o.groupSize o.radix = 0 then
    .error (.ungroupedRadix o.separator o.radix.value)
  else .ok o

end FormatOptions

end AsmListing
