import AsmListing.IntegerType
import AsmListing.RegisterValue

/-! Why an operand, a layout, a set of options or a rendering is refused, and the message that says
so. -/
namespace AsmListing

inductive ArgumentError where
  | unknownRegister (value : RegisterValue)
  | unsizedRegister (r : Register)
  | absentRegister
  | operandSize (size : Int) (allowed : List Int)
  | immediateRange (value size : Int)
  | scale (value : Int)
  | notSegment (r : Register)
  | displacementRange (value : Int)
  | targetRange (value size : Int)
  | instructionOperand (index : Int) (count : Nat)
  | renderedOperand (index : Int) (count : Nat)
  | slotRange (position : Nat) (operand count : Int)
  | slotRepeated (operand : Int) (first second : Nat)
  | notInteger (type : IntegerType) (value : Datum)
  | integerRange (type : IntegerType) (value : Int)
  | unwritableRegister (value : RegisterValue)
  | unknownDialect (name : String)
  deriving Repr

namespace ArgumentError

/-- There is no message if a number in it is too long to be written in decimal. -/
def message : ArgumentError → Option String
  | .unknownRegister value =>
    value.display.map fun shown => s!"Unknown register identifier {shown}"
  | .unsizedRegister r => some s!"Register {r.display} has no size"
  | .absentRegister => some "Register operand cannot be Register.NONE"
  | .operandSize size allowed => do
    let size ← Text.decimal? size
    let allowed ← allowed.mapM Text.decimal?
    return s!"Invalid operand size {size} (expected one of [" ++
      String.intercalate ", " allowed ++ "])"
  | .immediateRange value size => do
    let size ← Text.decimal? size
    return s!"Immediate {Text.hexForm value} does not fit in {size} byte(s)"
  | .scale value => (Text.decimal? value).map fun shown => s!"Invalid scale {shown}"
  | .notSegment r => some s!"{r.display} is not a segment register"
  | .displacementRange value => some s!"Displacement {Text.hexForm value} out of range"
  | .targetRange value size => do
    let size ← Text.decimal? size
    return s!"Branch target {Text.hexForm value} does not fit in {size} byte(s)"
  | .instructionOperand index count => do
    let index ← Text.decimal? index
    return s!"Instruction operand {index} out of range [0, {count})"
  | .renderedOperand index count => do
    let index ← Text.decimal? index
    return s!"Formatter operand {index} out of range [0, {count})"
  | .slotRange position operand count => do
    let operand ← Text.decimal? operand
    let count ← Text.decimal? count
    return s!"Slot {position} refers to instruction operand {operand}, instruction has {count}"
  | .slotRepeated operand first second => do
    let operand ← Text.decimal? operand
    return s!"Instruction operand {operand} appears at positions {first} and {second}"
  | .notInteger type value =>
    value.display.map fun shown => s!"{type.name} value must be an int, got {shown}"
  | .integerRange type value => do
    let value ← Text.decimal? value
    let least ← Text.decimal? type.least
    let greatest ← Text.decimal? type.greatest
    return s!"{value} is outside the {type.name} range [{least}, {greatest}]"
  | .unwritableRegister value =>
    value.display.map fun shown => s!"Cannot format register {shown}"
  | .unknownDialect name =>
    some s!"Unknown syntax '{name}' (expected one of: ['gas', 'intel', 'masm', 'nasm'])"

end ArgumentError

/-- Constructs that a dialect has no way to write. -/
inductive UnsupportedError where
  | rounding (dialect mnemonic decorator : String)
  | operandKind (name : String)
  deriving Repr

def UnsupportedError.message : UnsupportedError → String
  | .rounding dialect mnemonic decorator =>
    s!"{dialect} syntax has no rounding-control operand ({mnemonic} {decorator})"
  | .operandKind name => s!"Unknown operand kind {Text.quoted name}"

inductive ConfigurationError where
  | radix (value : Datum)
  | negativeCount (option : String) (value : Int)
  | ambiguousSeparator (separator : String)
  | ungroupedSeparator (separator : String)
  | ungroupedRadix (separator : String) (radix : Nat)
  | numberKind (value : Datum)
  | variableInteger (variableName value : String)
  deriving Repr

/-- There is no message if a number in it is too long to be written in decimal. -/
def ConfigurationError.message : ConfigurationError → Option String
  | .radix value => value.display.map fun shown => s!"Invalid radix {shown}"
  | .negativeCount option value =>
    (Text.decimal? value).map fun shown => s!"{option} must be >= 0, got {shown}"
  | .ambiguousSeparator separator =>
    some s!"digit separator {Text.quoted separator} is ambiguous with digits"
  | .ungroupedSeparator separator =>
    some s!"digit separator {Text.quoted separator} needs a digit group size"
  | .ungroupedRadix separator base =>
    some s!"digit separator {Text.quoted separator} needs a digit group size for radix {base}"
  | .numberKind value => value.display.map fun shown => s!"Unknown number kind {shown}"
  | .variableInteger name value => some s!"{name}={Text.quoted value} is not an integer"

inductive Error where
  | argument (cause : ArgumentError)
  | unsupported (cause : UnsupportedError)
  | configuration (cause : ConfigurationError)
  /-- The width of an integer is negative, or leaves no room for its sign. -/
  | negativeWidth
  /-- A number is too long to be written in decimal. -/
  | overlong
  deriving Repr

def Error.message : Error → Option String
  | .argument cause => cause.message
  | .unsupported cause => some cause.message
  | .configuration cause => cause.message
  | .negativeWidth => some "negative shift count"
  | .overlong => some Text.overlongMessage

instance : Coe ArgumentError Error := ⟨.argument⟩
instance : Coe UnsupportedError Error := ⟨.unsupported⟩
instance : Coe ConfigurationError Error := ⟨.configuration⟩

end AsmListing
