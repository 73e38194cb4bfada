import AsmListing.FormatOptions.Changes
import AsmListing.Numeral.Literal
import AsmListing.Text.LetterCase

/-! Options set by environment variables. Each option has a variable of its own, and a variable that
is absent leaves its option as it is. -/
namespace AsmListing

/-- Variables with their values; the first entry of a name counts. -/
abbrev Environment := List (String × String)

namespace Environment

def variableName (option : String) : String := "DISFMT_" ++ option

def get? (env : Environment) (option : String) : Option String := env.lookup (variableName option)

/-- Every value sets a flag but the words for its absence. -/
def flagValue (raw : String) : Bool :=
  let word := (Text.trim raw.toList).flatMap Text.foldChar
  String.ofList word ∉ ["0", "false", "off", ""]

def flag? (env : Environment) (option : String) : Option Bool := (env.get? option).map flagValue

/-- The empty text unsets an option. -/
def text? (env : Environment) (option : String) : Option (Option String) :=
  (env.get? option).map fun raw => if raw = "" then none else some raw

def integer? (env : Environment) (option : String) : Except ConfigurationError (Option Int) :=
  match env.get? option with
  | none => .ok none
  | some raw => match Numeral.markedLiteral (Text.trim raw.toList) with
    | .ok n => .ok (some n)
    | .error _ => .error (.variableInteger (variableName option) raw)

end Environment

namespace FormatOptions

/-- The names of the options in variables, in the order in which the options are read. -/
def variableNames : List String :=
  ["UPPERCASE_PREFIXES", "UPPERCASE_MNEMONICS", "UPPERCASE_REGISTERS", "UPPERCASE_KEYWORDS",
   "UPPERCASE_DECORATORS", "UPPERCASE_ALL", "NUMBER_BASE", "UPPERCASE_HEX", "HEX_PREFIX",
   "HEX_SUFFIX", "DECIMAL_PREFIX", "DECIMAL_SUFFIX", "OCTAL_PREFIX", "OCTAL_SUFFIX",
   "BINARY_PREFIX", "BINARY_SUFFIX", "DIGIT_SEPARATOR", "HEX_DIGIT_GROUP_SIZE",
   "DECIMAL_DIGIT_GROUP_SIZE", "OCTAL_DIGIT_GROUP_SIZE", "BINARY_DIGIT_GROUP_SIZE", "LEADING_ZEROS",
   "DISPLACEMENT_LEADING_ZEROS", "BRANCH_LEADING_ZEROS", "SIGNED_IMMEDIATE_OPERANDS",
   "SIGNED_MEMORY_DISPLACEMENTS", "SMALL_HEX_NUMBERS_IN_DECIMAL", "ADD_LEADING_ZERO_TO_HEX_NUMBERS",
   "FIRST_OPERAND_CHAR_INDEX", "SPACE_AFTER_OPERAND_SEPARATOR", "SPACE_AFTER_MEMORY_BRACKET",
   "SPACE_BETWEEN_MEMORY_ADD_OPERATORS", "SPACE_BETWEEN_MEMORY_MUL_OPERATORS", "SHOW_BRANCH_SIZE",
   "SHOW_MEMORY_SIZE", "GAS_NAKED_REGISTERS"]

/-- The changes that an environment asks for. The first integer that cannot be read is reported. -/
def Changes.ofEnvironment (env : Environment) : Except ConfigurationError Changes := do
  let radix ← env.integer? "NUMBER_BASE"
  let hexGroupSize ← env.integer? "HEX_DIGIT_GROUP_SIZE"
  let decimalGroupSize ← env.integer? "DECIMAL_DIGIT_GROUP_SIZE"
  let octalGroupSize ← env.integer? "OCTAL_DIGIT_GROUP_SIZE"
  let binaryGroupSize ← env.integer? "BINARY_DIGIT_GROUP_SIZE"
  let firstOperandColumn ← env.integer? "FIRST_OPERAND_CHAR_INDEX"
  return {
    uppercasePrefixes := env.flag? "UPPERCASE_PREFIXES"
    uppercaseMnemonics := env.flag? "UPPERCASE_MNEMONICS"
    uppercaseRegisters := env.flag? "UPPERCASE_REGISTERS"
    uppercaseKeywords := env.flag? "UPPERCASE_KEYWORDS"
    uppercaseDecorators := env.flag? "UPPERCASE_DECORATORS"
    uppercaseAll := env.flag? "UPPERCASE_ALL"
    radix := radix.map Datum.integer
    uppercaseHex := env.flag? "UPPERCASE_HEX"
    hexPrefix := env.text? "HEX_PREFIX"
    hexSuffix := env.text? "HEX_SUFFIX"
    decimalPrefix := env.text? "DECIMAL_PREFIX"
    decimalSuffix := env.text? "DECIMAL_SUFFIX"
    octalPrefix := env.text? "OCTAL_PREFIX"
    octalSuffix := env.text? "OCTAL_SUFFIX"
    binaryPrefix := env.text? "BINARY_PREFIX"
    binarySuffix := env.text? "BINARY_SUFFIX"
    digitSeparator := env.text? "DIGIT_SEPARATOR"
    hexGroupSize
    decimalGroupSize
    octalGroupSize
    binaryGroupSize
    leadingZeros := env.flag? "LEADING_ZEROS"
    displacementLeadingZeros := env.flag? "DISPLACEMENT_LEADING_ZEROS"
    branchLeadingZeros := env.flag? "BRANCH_LEADING_ZEROS"
    signedImmediates := env.flag? "SIGNED_IMMEDIATE_OPERANDS"
    signedDisplacements := env.flag? "SIGNED_MEMORY_DISPLACEMENTS"
    smallHexInDecimal := env.flag? "SMALL_HEX_NUMBERS_IN_DECIMAL"
    leadingZeroBeforeHexLetter := env.flag? "ADD_LEADING_ZERO_TO_HEX_NUMBERS"
    firstOperandColumn
    spaceAfterSeparator := env.flag? "SPACE_AFTER_OPERAND_SEPARATOR"
    spaceInsideBrackets := env.flag? "SPACE_AFTER_MEMORY_BRACKET"
    spaceAroundAdd := env.flag? "SPACE_BETWEEN_MEMORY_ADD_OPERATORS"
    spaceAroundMul := env.flag? "SPACE_BETWEEN_MEMORY_MUL_OPERATORS"
    showBranchSize := env.flag? "SHOW_BRANCH_SIZE"
    showMemorySize := env.flag? "SHOW_MEMORY_SIZE"
    nakedRegisters := env.flag? "GAS_NAKED_REGISTERS" }

/-- Whether the environment sets any option. -/
def overriddenBy (env : Environment) : Bool :=
  variableNames.any fun name => (env.get? name).isSome

def load (base : FormatOptions) (env : Environment) : Except ConfigurationError FormatOptions := do
  base.change (← Changes.ofEnvironment env)

end FormatOptions

end AsmListing
