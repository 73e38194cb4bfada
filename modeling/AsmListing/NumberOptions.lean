import AsmListing.FormatOptions.Changes

/-! The options for the numbers of one kind, drawn from the options of a formatter. -/
namespace AsmListing

/-- What a number in an instruction stands for. -/
inductive NumberKind where
  | immediate | displacement | branch
  deriving DecidableEq, Repr, Inhabited

def NumberKind.ofDatum : Datum → Except ConfigurationError NumberKind
  | .text "immediate" => .ok .immediate
  | .text "displacement" => .ok .displacement
  | .text "branch" => .ok .branch
  | value => .error (.numberKind value)

structure NumberOptions where
  radix : Radix := .hexadecimal
  numberPrefix : String := ""
  numberSuffix : String := ""
  decimalPrefix : String := ""
  decimalSuffix : String := ""
  digitSeparator : String := ""
  groupSize : Nat := 0
  uppercaseHex : Bool := true
  /-- Show a hexadecimal number of one decimal digit as a decimal number. -/
  smallHexInDecimal : Bool := true
  /-- Put a zero before a hexadecimal number that would start with a letter. -/
  leadingZeroBeforeHexLetter : Bool := true
  /-- Pad with zeros to the width of the type. -/
  leadingZeros : Bool := false
  /-- Show a negative number by its sign and magnitude. -/
  signedNumber : Bool := false
  deriving DecidableEq, Repr, Inhabited

namespace NumberOptions

/-- Let the options through if their digit separator has groups to separate and cannot be taken for
digits. -/
def checked (o : NumberOptions) : Except ConfigurationError NumberOptions :=
  if o.digitSeparator ≠ "" ∧ o.groupSize = 0 then
    .error (.ungroupedSeparator o.digitSeparator)
  else if o.digitSeparator.toList.any Text.isAlphanumeric then
    .error (.ambiguousSeparator o.digitSeparator)
  else .ok o

/-- The options that are given new values. The radix and the group size are still to be checked. -/
structure Changes where
  radix : Option Datum := none
  numberPrefix : Option String := none
  numberSuffix : Option String := none
  decimalPrefix : Option String := none
  decimalSuffix : Option String := none
  digitSeparator : Option String := none
  groupSize : Option Int := none
  uppercaseHex : Option Bool := none
  smallHexInDecimal : Option Bool := none
  leadingZeroBeforeHexLetter : Option Bool := none
  leadingZeros : Option Bool := none
  signedNumber : Option Bool := none
  deriving Repr, Inhabited

def change (o : NumberOptions) (c : Changes) : Except ConfigurationError NumberOptions := do
  let radix ← newRadix o.radix c.radix
  let groupSize ← newCount "digit_group_size" o.groupSize c.groupSize
  checked {
    radix
    numberPrefix := c.numberPrefix.getD o.numberPrefix
    numberSuffix := c.numberSuffix.getD o.numberSuffix
    decimalPrefix := c.decimalPrefix.getD o.decimalPrefix
    decimalSuffix := c.decimalSuffix.getD o.decimalSuffix
    digitSeparator := c.digitSeparator.getD o.digitSeparator
    groupSize
    uppercaseHex := c.uppercaseHex.getD o.uppercaseHex
    smallHexInDecimal := c.smallHexInDecimal.getD o.smallHexInDecimal
    leadingZeroBeforeHexLetter :=
      c.leadingZeroBeforeHexLetter.getD o.leadingZeroBeforeHexLetter
    leadingZeros := c.leadingZeros.getD o.leadingZeros
    signedNumber := c.signedNumber.getD o.signedNumber }

/-- The options that a formatter uses for the numbers of a kind. -/
def ofFormat (kind : NumberKind) (o : FormatOptions) : Except ConfigurationError NumberOptions :=
  checked {
    radix := o.radix
    numberPrefix := (o.affixes o.radix).1
    numberSuffix := (o.affixes o.radix).2
    decimalPrefix := (o.affixes .decimal).1
    decimalSuffix := (o.affixes .decimal).2
    digitSeparator := o.separator
    groupSize := o.groupSize o.radix
    uppercaseHex := o.uppercaseHex
    smallHexInDecimal := o.smallHexInDecimal
    leadingZeroBeforeHexLetter := o.leadingZeroBeforeHexLetter
    leadingZeros := match kind with
      | .immediate => o.leadingZeros
      | .displacement => o.displacementLeadingZeros
      | .branch => o.branchLeadingZeros
    signedNumber := match kind with
      | .immediate => o.signedImmediates
      | .displacement => o.signedDisplacements
      | .branch => false }

end NumberOptions

end AsmListing
