import AsmListing.FormatOptions.Basic

/-! Changes to options. The changed options are checked again as a whole. -/
namespace AsmListing

/-- The new value of a count, or the present one if it is not changed. -/
def newCount (option : String) (present : Nat) : Option Int → Except ConfigurationError Nat
  | none => .ok present
  | some n => if n < 0 then .error (.negativeCount option n) else .ok n.toNat

def newRadix (present : Radix) : Option Datum → Except ConfigurationError Radix
  | none => .ok present
  | some value => Radix.ofDatum value

namespace FormatOptions

/-- The options that are given new values. A radix or a count is still to be checked. -/
structure Changes where
  uppercasePrefixes : Option Bool := none
  uppercaseMnemonics : Option Bool := none
  uppercaseRegisters : Option Bool := none
  uppercaseKeywords : Option Bool := none
  uppercaseDecorators : Option Bool := none
  uppercaseAll : Option Bool := none
  radix : Option Datum := none
  uppercaseHex : Option Bool := none
  hexPrefix : Option (Option String) := none
  hexSuffix : Option (Option String) := none
  decimalPrefix : Option (Option String) := none
  decimalSuffix : Option (Option String) := none
  octalPrefix : Option (Option String) := none
  octalSuffix : Option (Option String) := none
  binaryPrefix : Option (Option String) := none
  binarySuffix : Option (Option String) := none
  digitSeparator : Option (Option String) := none
  hexGroupSize : Option Int := none
  decimalGroupSize : Option Int := none
  octalGroupSize : Option Int := none
  binaryGroupSize : Option Int := none
  leadingZeros : Option Bool := none
  displacementLeadingZeros : Option Bool := none
  branchLeadingZeros : Option Bool := none
  signedImmediates : Option Bool := none
  signedDisplacements : Option Bool := none
  smallHexInDecimal : Option Bool := none
  leadingZeroBeforeHexLetter : Option Bool := none
  firstOperandColumn : Option Int := none
  spaceAfterSeparator : Option Bool := none
  spaceInsideBrackets : Option Bool := none
  spaceAroundAdd : Option Bool := none
  spaceAroundMul : Option Bool := none
  showBranchSize : Option Bool := none
  showMemorySize : Option Bool := none
  nakedRegisters : Option Bool := none
  deriving Repr, Inhabited

/-- The options with their new values. The radix is checked first, then the counts in order. -/
def updated (o : FormatOptions) (c : Changes) : Except ConfigurationError FormatOptions := do
  let radix ← newRadix o.radix c.radix
  let hexGroupSize ← newCount "hex_digit_group_size" o.hexGroupSize c.hexGroupSize
  let decimalGroupSize ← newCount "decimal_digit_group_size" o.decimalGroupSize c.decimalGroupSize
  let octalGroupSize ← newCount "octal_digit_group_size" o.octalGroupSize c.octalGroupSize
  let binaryGroupSize ← newCount "binary_digit_group_size" o.binaryGroupSize c.binaryGroupSize
  let firstOperandColumn ←
    newCount "first_operand_char_index" o.firstOperandColumn c.firstOperandColumn
  return {
    uppercasePrefixes := c.uppercasePrefixes.getD o.uppercasePrefixes
    uppercaseMnemonics := c.uppercaseMnemonics.getD o.uppercaseMnemonics
    uppercaseRegisters := c.uppercaseRegisters.getD o.uppercaseRegisters
    uppercaseKeywords := c.uppercaseKeywords.getD o.uppercaseKeywords
    uppercaseDecorators := c.uppercaseDecorators.getD o.uppercaseDecorators
    uppercaseAll := c.uppercaseAll.getD o.uppercaseAll
    radix
    uppercaseHex := c.uppercaseHex.getD o.uppercaseHex
    hexPrefix := c.hexPrefix.getD o.hexPrefix
    hexSuffix := c.hexSuffix.getD o.hexSuffix
    decimalPrefix := c.decimalPrefix.getD o.decimalPrefix
    decimalSuffix := c.decimalSuffix.getD o.decimalSuffix
    octalPrefix := c.octalPrefix.getD o.octalPrefix
    octalSuffix := c.octalSuffix.getD o.octalSuffix
    binaryPrefix := c.binaryPrefix.getD o.binaryPrefix
    binarySuffix := c.binarySuffix.getD o.binarySuffix
    digitSeparator := c.digitSeparator.getD o.digitSeparator
    hexGroupSize
    decimalGroupSize
    octalGroupSize
    binaryGroupSize
    leadingZeros := c.leadingZeros.getD o.leadingZeros
    displacementLeadingZeros := c.displacementLeadingZeros.getD o.displacementLeadingZeros
    branchLeadingZeros := c.branchLeadingZeros.getD o.branchLeadingZeros
    signedImmediates := c.signedImmediates.getD o.signedImmediates
    signedDisplacements := c.signedDisplacements.getD o.signedDisplacements
    smallHexInDecimal := c.smallHexInDecimal.getD o.smallHexInDecimal
    leadingZeroBeforeHexLetter :=
      c.leadingZeroBeforeHexLetter.getD o.leadingZeroBeforeHexLetter
    firstOperandColumn
    spaceAfterSeparator := c.spaceAfterSeparator.getD o.spaceAfterSeparator
    spaceInsideBrackets := c.spaceInsideBrackets.getD o.spaceInsideBrackets
    spaceAroundAdd := c.spaceAroundAdd.getD o.spaceAroundAdd
    spaceAroundMul := c.spaceAroundMul.getD o.spaceAroundMul
    showBranchSize := c.showBranchSize.getD o.showBranchSize
    showMemorySize := c.showMemorySize.getD o.showMemorySize
    nakedRegisters := c.nakedRegisters.getD o.nakedRegisters }

/-- The digit separator is checked last. -/
def change (o : FormatOptions) (c : Changes) : Except ConfigurationError FormatOptions := do
  checked (← o.updated c)

end FormatOptions

end AsmListing
