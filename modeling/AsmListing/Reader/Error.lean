import AsmListing.Error

/-! Why a text is not read as an instruction. -/
namespace AsmListing

/-- Why a word is not read as a number. -/
inductive LiteralError where
  /-- The text is no integer in the given radix. -/
  | invalid (radix : Nat) (text : String)
  /-- There are so many decimal digits, more than the limit allows. -/
  | overlong (count : Nat)
  deriving DecidableEq, Repr

/-- A quoted text is cut after two hundred characters. -/
def LiteralError.message : LiteralError → String
  | .invalid radix text =>
    let shown := String.ofList ((Text.quoted text).toList.take 200)
    s!"invalid literal for int() with base {radix}: {shown}"
  | .overlong count =>
    s!"Exceeds the limit ({Text.digitLimit} digits) for integer string conversion: value has {count} "
      ++ "digits; use sys.set_int_max_str_digits() to increase the limit"

/-- Why a well-formed text stands for no instruction. -/
inductive MeaningError where
  | unknownRegister (name : String)
  | subtractedRegister (r : Register)
  | tooManyRegisters
  | repeatedRounding
  | implicitNumber
  | negativeTarget (target : Int)
  | unknownRounding (word : String)
  | argument (cause : ArgumentError)
  | literal (cause : LiteralError)
  deriving Repr

namespace MeaningError

/-- There is no message if a number in it is too long to be written in decimal. -/
def message : MeaningError → Option String
  | .unknownRegister name => some s!"Unknown register '{name}'"
  | .subtractedRegister r => some s!"Cannot subtract register {r.name}"
  | .tooManyRegisters => some "Memory operand has more than two registers"
  | .repeatedRounding => some "More than one rounding-control decorator"
  | .implicitNumber => some "Only register and memory operands can be implicit"
  | .negativeTarget target =>
    (Text.decimal? target).map fun shown => s!"Negative branch target {shown}"
  | .unknownRounding word => some s!"{Text.quoted word} is not a valid RoundingControl"
  | .argument cause => cause.message
  | .literal cause => some cause.message

/-- A text is refused for what it says, in words that quote it, unless a word of it cannot be
converted or the reason cannot be put in words. -/
def isRefusal : MeaningError → Bool
  | .unknownRounding _ | .literal _ => false
  | e => e.message.isSome

end MeaningError

inductive ReadError where
  | malformed (text : String)
  | meaningless (text : String) (cause : MeaningError)
  deriving Repr

namespace ReadError

def isRefusal : ReadError → Bool
  | .malformed _ => true
  | .meaningless _ cause => cause.isRefusal

/-- What is no refusal is reported without the text around it. -/
def message : ReadError → String
  | .malformed text => s!"Cannot parse {Text.quoted text}"
  | .meaningless text cause =>
    let reason := cause.message.getD Text.overlongMessage
    if cause.isRefusal then s!"{Text.quoted text}: {reason}" else reason

end ReadError

end AsmListing
