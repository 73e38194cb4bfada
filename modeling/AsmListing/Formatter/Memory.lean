import AsmListing.Formatter.Basic

/-! Places in memory as they are written in the three styles. -/
namespace AsmListing.Formatter

def sizeKeyword? (size : Int) : Option String :=
  match size with
  | 1 => some "byte"
  | 2 => some "word"
  | 4 => some "dword"
  | 8 => some "qword"
  | 16 => some "xmmword"
  | _ => none

def keyword (f : Formatter) (word : String) : Emission :=
  .write .keyword (f.cased f.options.uppercaseKeywords word) ++ .write .space " "

def register (f : Formatter) (value : RegisterValue) : Emission :=
  .writeOf .register ((f.registerName value).mapError .argument)

def operator (spaced : Bool) (text : String) : Emission :=
  .when spaced (.write .space " ") ++ .write .operator text ++ .when spaced (.write .space " ")

/-- The displacement as an unsigned 64-bit address. -/
def unsignedDisplacement (op : Operand) : Int := op.displacement % twoPower 64

/-- The displacement as a two's complement 64-bit number. -/
def signedDisplacement (op : Operand) : Int :=
  let n := unsignedDisplacement op
  if twoPower 63 ≤ n then n - twoPower 64 else n

def hasRegisters (op : Operand) : Bool := !op.base.isAbsent || !op.index.isAbsent

/-- Whether the displacement is shown by a minus sign and its magnitude. An address without
registers is absolute and has no sign. -/
def showsMinus (f : Formatter) (op : Operand) : Bool :=
  hasRegisters op && decide (signedDisplacement op < 0) && f.options.signedDisplacements

def displacement (f : Formatter) (op : Operand) : Emission :=
  .writeOf .number do
    let o ← f.numberOptions .displacement
    o.unsigned 64 (if f.showsMinus op then -signedDisplacement op else unsignedDisplacement op)

def segment (f : Formatter) (op : Operand) : Emission :=
  .when (!op.segment.isAbsent) (f.register op.segment ++ .write .punctuation ":")

def sizeKeywords (f : Formatter) (op : Operand) : Emission :=
  match sizeKeyword? op.size with
  | some word =>
    .when f.options.showMemorySize
      (f.keyword word ++ .when (f.dialect.memoryStyle = .intel) (f.keyword "ptr"))
  | none => {}

/-- The sum of base and scaled index. -/
def registerSum (f : Formatter) (op : Operand) : Emission :=
  .when (!op.base.isAbsent) (f.register op.base) ++
  .when (!op.index.isAbsent)
    (.when (!op.base.isAbsent) (operator f.options.spaceAroundAdd "+") ++
      f.register op.index ++
      .when (op.scale ≠ 1)
        (operator f.options.spaceAroundMul "*" ++ .write .number (toString op.scale)))

/-- The displacement as the last summand. A zero is left out next to registers. -/
def displacementTerm (f : Formatter) (op : Operand) : Emission :=
  if !hasRegisters op then f.displacement op
  else .when (signedDisplacement op ≠ 0)
    (operator f.options.spaceAroundAdd (if f.showsMinus op then "-" else "+") ++
      f.displacement op)

def bracketed (f : Formatter) (op : Operand) : Emission :=
  let inner := f.dialect.memoryStyle = .nasm
  let gap := Emission.when f.options.spaceInsideBrackets (.write .space " ")
  f.sizeKeywords op ++ .when (!inner) (f.segment op) ++ .write .beginMemory "[" ++ gap ++
    .when inner (f.segment op) ++ f.registerSum op ++ f.displacementTerm op ++ gap ++
    .write .endMemory "]"

def parenthesized (f : Formatter) (op : Operand) : Emission :=
  f.segment op ++
  .when (!hasRegisters op || signedDisplacement op ≠ 0)
    (.when (f.showsMinus op) (.write .operator "-") ++ f.displacement op) ++
  .when (hasRegisters op)
    (.write .beginMemory "(" ++
      .when (!op.base.isAbsent) (f.register op.base) ++
      .when (!op.index.isAbsent)
        (.write .punctuation "," ++ f.register op.index ++
          .when (op.scale ≠ 1) (.write .punctuation "," ++ .write .number (toString op.scale))) ++
      .write .endMemory ")")

def memory (f : Formatter) (op : Operand) : Emission :=
  match f.dialect.memoryStyle with
  | .gas => f.parenthesized op
  | _ => f.bracketed op

end AsmListing.Formatter
