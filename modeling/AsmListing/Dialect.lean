import AsmListing.FormatOptions.Basic
import AsmListing.Text.LetterCase

/-! Assembler dialects: the choices in which they differ. -/
namespace AsmListing

/-- How a place in memory is written. -/
inductive MemoryStyle where
  /-- As in `dword ptr fs:[rax+rbx*4+10h]`. -/
  | intel
  /-- As in `dword [fs:rax+rbx*4+10h]`. -/
  | nasm
  /-- As in `%fs:0x10(%rax,%rbx,4)`. -/
  | gas
  deriving DecidableEq, Repr, Inhabited

/-- Where the rounding control stands among the operands. -/
inductive DecoratorPlace where
  | first | last | unsupported
  deriving DecidableEq, Repr, Inhabited

structure Dialect where
  name : String
  memoryStyle : MemoryStyle
  defaults : FormatOptions
  showImplicit : Bool := false
  reverseOperands : Bool := false
  decorator : DecoratorPlace := .last
  registerPrefix : String := ""
  immediatePrefix : String := ""
  shortKeyword : Bool := true
  deriving DecidableEq, Repr, Inhabited

namespace Dialect

def intel : Dialect := { name := "intel", memoryStyle := .intel, defaults := .intel }

def masm : Dialect :=
  { name := "masm", memoryStyle := .intel, defaults := .masm, showImplicit := true,
    decorator := .unsupported }

def nasm : Dialect := { name := "nasm", memoryStyle := .nasm, defaults := .nasm }

def gas : Dialect :=
  { name := "gas", memoryStyle := .gas, defaults := .gas, reverseOperands := true,
    decorator := .first, registerPrefix := "%", immediatePrefix := "$", shortKeyword := false }

/-- Letter case in the name of a dialect does not matter. -/
def ofName (name : String) : Except ArgumentError Dialect :=
  match [intel, masm, nasm, gas].find? fun d => d.name == Text.lower name with
  | some d => .ok d
  | none => .error (.unknownDialect name)

end Dialect

end AsmListing
