import AsmListing.Instruction
import AsmListing.Numeral.Literal
import AsmListing.Reader.Error
import AsmListing.Reader.Sentence
import AsmListing.Text.LetterCase

/-! What a well-formed instruction text stands for. The operands are first read one by one; the size
of the immediates then follows from the operands around them. -/
namespace AsmListing

/-- Hexadecimal after `0x` or before `h`, binary after `0b`, and else decimal. -/
def readNumber (text : String) : Except LiteralError Int :=
  let cs := (Text.lower text).toList
  let literal := fun (radix : Nat) (ds : List Char) =>
    match Numeral.literal radix ds with
    | .ok n => Except.ok n
    | .error .malformed => .error (.invalid radix (String.ofList ds))
    | .error (.overlong count) => .error (.overlong count)
  match cs with
  | '0' :: 'x' :: ds => literal 16 ds
  | '0' :: 'b' :: ds => if cs.getLast? = some 'h' then literal 16 cs.dropLast else literal 2 ds
  | _ => if cs.getLast? = some 'h' then literal 16 cs.dropLast else literal 10 cs

/-- Registers are looked up by the capitals of their name, `none` included. -/
def readRegister (name : String) : Except MeaningError Register :=
  match Register.ofSymbol? (Text.upper name) with
  | some r => .ok r
  | none => .error (.unknownRegister name)

/-- Whether the numbers after a mnemonic are addresses to branch to. -/
def isBranch (mnemonic : String) : Bool :=
  let word := Text.lower mnemonic
  ["call", "jmp", "loop", "loope", "loopne", "jecxz", "jrcxz"].contains word ||
    word.toList.head? == some 'j'

/-- An operand as read by itself. -/
inductive Draft where
  | register (r : Register)
  | immediate (value : Int)
  | shortBranch (target : Int)
  | memory (place : MemoryPlace)
  | rounding (r : Rounding)
  deriving Repr, Inhabited

/-- A summand of a memory operand as read by itself. -/
inductive TermValue where
  | register (r : Register)
  | scaled (r : Register) (factor : Int)
  | number (n : Int)
  deriving DecidableEq, Repr, Inhabited

def numberValue (text : String) : Except MeaningError Int :=
  (readNumber text).mapError .literal

def Term.value : Term → Except MeaningError TermValue
  | .register name => (readRegister name).map .register
  | .scaled name factor => do return .scaled (← readRegister name) (← numberValue factor)
  | .number text => (numberValue text).map .number

/-- Add a summand to a place. The first register without a factor is the base, another register is
the index, and numbers add up to the displacement. -/
def MemoryPlace.add (place : MemoryPlace) : Sign × TermValue → Except MeaningError MemoryPlace
  | (.plus, .number n) => .ok { place with displacement := place.displacement + n }
  | (.minus, .number n) => .ok { place with displacement := place.displacement - n }
  | (.minus, .register r) | (.minus, .scaled r _) => .error (.subtractedRegister r)
  | (.plus, .register r) =>
    if place.base.isAbsent then .ok { place with base := r }
    else if place.index.isAbsent then .ok { place with index := r, scale := 1 }
    else .error .tooManyRegisters
  | (.plus, .scaled r factor) =>
    if place.index.isAbsent then .ok { place with index := r, scale := factor }
    else .error .tooManyRegisters

/-- The size that a size lexeme names. -/
def memorySize (text : String) : Int :=
  match Text.lower (String.ofList (Terminal.wordOf text.toList)) with
  | "byte" => 1
  | "word" => 2
  | "dword" => 4
  | "qword" => 8
  | "xmmword" => 16
  | _ => 0

def readRounding (text : String) : Except MeaningError Rounding :=
  let word := Text.lower (String.ofList (text.toList.drop 1).dropLast)
  match Rounding.ofWord? word with
  | some r => .ok r
  | none => .error (.unknownRounding word)

/-- All summands are read before they are added up. -/
def Phrase.draft : Phrase → Except MeaningError Draft
  | .register name => (readRegister name).map .register
  | .number (some .minus) text => (numberValue text).map fun n => .immediate (-n)
  | .number _ text => (numberValue text).map .immediate
  | .shortBranch text => (numberValue text).map .shortBranch
  | .decorator text => (readRounding text).map .rounding
  | .memory size segment first more => do
    let segment ← segment.elim (.ok .none) readRegister
    let first ← first.value
    let more ← more.mapM fun (sign, term) => term.value.map (sign, ·)
    let place : MemoryPlace := { size := size.elim 0 memorySize, segment := segment }
    return .memory (← ((Sign.plus, first) :: more).foldlM MemoryPlace.add place)

namespace Draft

/-- Immediates have the size of the first register or sized memory operand, at most eight bytes, and
four bytes if there is none. -/
def immediateSize : List Draft → Except ArgumentError Int
  | [] => .ok 4
  | .register r :: _ => r.width.map fun n => min n 8
  | .memory place :: rest => if place.size = 0 then immediateSize rest else .ok (min place.size 8)
  | _ :: rest => immediateSize rest

def branchOperand (target : Int) (short : Bool) : Except MeaningError Operand :=
  if target < 0 then .error (.negativeTarget target)
  else (Operand.ofTarget target 8 short).mapError .argument

/-- The operand of an instruction with the given mnemonic and immediates of the given size. -/
def operand (mnemonic : String) (size : Int) (implicit : Bool) :
    Draft → Except MeaningError (Option Operand)
  | .rounding _ => .ok none
  | .register r => ((Operand.ofRegister r .read implicit).mapError .argument).map some
  | .memory place => ((Operand.ofMemory place .read implicit).mapError .argument).map some
  | .shortBranch target =>
    if implicit then .error .implicitNumber else (branchOperand target true).map some
  | .immediate value =>
    if implicit then .error .implicitNumber
    else if isBranch mnemonic then (branchOperand value false).map some
    else ((Operand.ofImmediate value size).mapError .argument).map some

def rounding? : Draft → Option Rounding
  | .rounding r => some r
  | _ => none

end Draft

def prefixMask (words : List String) : PrefixMask :=
  (words.filterMap fun w => Prefix.ofWord? (Text.lower w)).foldl PrefixMask.insert {}

def Sentence.instruction (s : Sentence) : Except MeaningError Instruction := do
  let drafts ← s.operands.mapM fun p => p.phrase.draft.map (·, p.implicit)
  let roundings := drafts.filterMap fun (d, _) => d.rounding?
  if 1 < roundings.length then .error .repeatedRounding
  else
    let mnemonic := Text.lower s.mnemonic
    let size ← (Draft.immediateSize (drafts.map Prod.fst)).mapError .argument
    let operands ← drafts.mapM fun (d, implicit) => d.operand mnemonic size implicit
    return { mnemonic, operands := operands.filterMap id, prefixes := prefixMask s.prefixes,
             rounding := roundings.head? }

end AsmListing
