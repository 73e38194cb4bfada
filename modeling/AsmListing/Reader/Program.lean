import AsmListing.Reader.Meaning
import AsmListing.Text.Lines

/-! Reading instructions and programs. A program has one instruction on each line that is not blank;
a semicolon starts a comment. -/
namespace AsmListing

def Instruction.read (text : String) : Except ReadError Instruction :=
  match Sentence.parse? text with
  | none => .error (.malformed text)
  | some s => s.instruction.mapError (.meaningless text)

namespace Program

/-- A line without its comment and outer blanks. -/
def code (line : List Char) : List Char := Text.trim (line.takeWhile (· != ';'))

/-- The lines that hold an instruction. -/
def codeLines (text : String) : List String :=
  (((Text.lines text.toList).map code).filter (· != [])).map String.ofList

def read (text : String) : Except ReadError (List Instruction) :=
  (codeLines text).mapM Instruction.read

end Program

end AsmListing
