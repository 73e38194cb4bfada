import AsmListing.Dialect
import AsmListing.Emission
import AsmListing.Instruction
import AsmListing.Layout
import AsmListing.Numeral.Render

/-! Formatters: a dialect with options. Here are the parts of the text that are no operands, and the
layout of the operands. -/
namespace AsmListing

structure Formatter where
  dialect : Dialect
  options : FormatOptions
  deriving DecidableEq, Repr, Inhabited

namespace Formatter

/-- A formatter with the given options, or else with those of the dialect. -/
def ofDialect (d : Dialect) (options : Option FormatOptions) : Formatter :=
  ⟨d, options.getD d.defaults⟩

def create (name : String) (options : Option FormatOptions) : Except ArgumentError Formatter :=
  (Dialect.ofName name).map fun d => ofDialect d options

def display (f : Formatter) : String := "SyntaxFormatter(" ++ f.dialect.name ++ ")"

/-- In capitals if the option for this kind of text or the one for all text asks for them. -/
def cased (f : Formatter) (capitals : Bool) (text : String) : String :=
  if capitals || f.options.uppercaseAll then Text.upper text else text

def registerName (f : Formatter) (value : RegisterValue) : Except ArgumentError String :=
  match value.register? with
  | none | some .none => .error (.unwritableRegister value)
  | some r =>
    let mark := if f.options.nakedRegisters then "" else f.dialect.registerPrefix
    .ok (mark ++ f.cased f.options.uppercaseRegisters r.name)

def numberOptions (f : Formatter) (kind : NumberKind) : Except Error NumberOptions :=
  (NumberOptions.ofFormat kind f.options).mapError .configuration

/-- The text of an integer, by default with the options for immediates. -/
def formatInteger (f : Formatter) (type : IntegerType) (value : Datum)
    (options : Option NumberOptions := none) : Except Error String := do
  let o ← options.elim (f.numberOptions .immediate) .ok
  o.format type value

/-- The slots of an instruction. A rounding control that the dialect cannot write has none. -/
def slots (f : Formatter) (i : Instruction) : List Slot :=
  let shown := i.operands.zipIdx.filter fun (op, _) => f.dialect.showImplicit || !op.implicit
  let real := shown.map fun (_, k) => Slot.operand k
  let ordered := if f.dialect.reverseOperands then real.reverse else real
  match i.rounding, f.dialect.decorator with
  | some r, .first => .synthetic ⟨r.decorator, .none⟩ :: ordered
  | some r, .last => ordered ++ [.synthetic ⟨r.decorator, .none⟩]
  | _, _ => ordered

def layout (f : Formatter) (i : Instruction) : Layout := ⟨f.slots i⟩

def operandCount (f : Formatter) (i : Instruction) : Nat := (f.layout i).size

/-- Fails if the instruction has a rounding control and the dialect cannot write it. -/
def checkRounding (f : Formatter) (i : Instruction) : Emission :=
  match i.rounding, f.dialect.decorator with
  | some r, .unsupported =>
    .fail (.unsupported (.rounding f.dialect.name i.mnemonic r.decorator))
  | _, _ => {}

/-- Which parts of the mnemonic phase to write. -/
structure MnemonicParts where
  prefixes : Bool := true
  mnemonic : Bool := true
  deriving DecidableEq, Repr, Inhabited

def space : Token := ⟨.space, " "⟩

/-- The prefixes and the mnemonic, with blanks up to the column of the first operand. -/
def mnemonicTokens (f : Formatter) (i : Instruction) (parts : MnemonicParts) : List Token :=
  let known := if parts.prefixes then i.prefixes.toList else []
  let words := known.map fun p => Token.mk .prefixWord (f.cased f.options.uppercasePrefixes p.word)
  if parts.mnemonic then
    let name := Token.mk .mnemonic (f.cased f.options.uppercaseMnemonics i.mnemonic)
    let head := words.flatMap (fun w => [w, space]) ++ [name]
    let padding := max 1 (f.options.firstOperandColumn - (Token.textOf head).length)
    if f.operandCount i = 0 then head
    else head ++ [⟨.space, String.ofList (List.replicate padding ' ')⟩]
  else words.intersperse space

def mnemonic (f : Formatter) (i : Instruction) (parts : MnemonicParts := {}) : Emission :=
  .ofTokens (f.mnemonicTokens i parts)

def separator (f : Formatter) : Emission :=
  .write .separator "," ++ .when f.options.spaceAfterSeparator (.write .space " ")

end Formatter

end AsmListing
