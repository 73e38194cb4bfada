import AsmListing.Reader.Lexeme

/-! The parts of an instruction text. -/
namespace AsmListing

inductive Sign where
  | plus | minus
  deriving DecidableEq, Repr, Inhabited

def Sign.ofText (s : String) : Sign := if s = "-" then .minus else .plus

/-- A summand in a memory operand. -/
inductive Term where
  | register (name : String)
  | scaled (name factor : String)
  | number (text : String)
  deriving DecidableEq, Repr, Inhabited

/-- An operand as it is written. -/
inductive Phrase where
  | register (name : String)
  | number (sign : Option Sign) (text : String)
  | shortBranch (text : String)
  | decorator (text : String)
  | memory (size segment : Option String) (first : Term) (more : List (Sign × Term))
  deriving DecidableEq, Repr, Inhabited

structure OperandPhrase where
  phrase : Phrase
  /-- Written in angle brackets. -/
  implicit : Bool
  deriving DecidableEq, Repr, Inhabited

structure Sentence where
  prefixes : List String
  mnemonic : String
  operands : List OperandPhrase
  deriving DecidableEq, Repr, Inhabited

namespace Phrase

/-- The summands after the first, up to the closing bracket, which ends the operand. -/
def terms? : List Lexeme → Option (List (Sign × Term))
  | [⟨.closeBracket, _⟩] => some []
  | ⟨.sign, s⟩ :: ⟨.name, r⟩ :: ⟨.star, _⟩ :: ⟨.number, k⟩ :: rest =>
    (terms? rest).map ((Sign.ofText s, .scaled r k) :: ·)
  | ⟨.sign, s⟩ :: ⟨.name, r⟩ :: rest => (terms? rest).map ((Sign.ofText s, .register r) :: ·)
  | ⟨.sign, s⟩ :: ⟨.number, n⟩ :: rest => (terms? rest).map ((Sign.ofText s, .number n) :: ·)
  | _ => none

def bracketed? (size segment : Option String) : List Lexeme → Option Phrase
  | ⟨.name, r⟩ :: ⟨.star, _⟩ :: ⟨.number, k⟩ :: rest =>
    (terms? rest).map (.memory size segment (.scaled r k))
  | ⟨.name, r⟩ :: rest => (terms? rest).map (.memory size segment (.register r))
  | ⟨.number, n⟩ :: rest => (terms? rest).map (.memory size segment (.number n))
  | _ => none

def memory? (size : Option String) : List Lexeme → Option Phrase
  | ⟨.name, s⟩ :: ⟨.colon, _⟩ :: ⟨.openBracket, _⟩ :: rest => bracketed? size (some s) rest
  | ⟨.openBracket, _⟩ :: rest => bracketed? size none rest
  | _ => none

def ofLexemes? : List Lexeme → Option Phrase
  | [⟨.name, r⟩] => some (.register r)
  | [⟨.number, n⟩] => some (.number none n)
  | [⟨.sign, s⟩, ⟨.number, n⟩] => some (.number (some (Sign.ofText s)) n)
  | [⟨.shortWord, _⟩, ⟨.number, n⟩] => some (.shortBranch n)
  | [⟨.decorator, d⟩] => some (.decorator d)
  | ⟨.sizeWord, size⟩ :: rest => memory? (some size) rest
  | ls => memory? none ls

end Phrase

/-- The lexemes inside angle brackets, if they enclose all of them. -/
def enclosed? : List Lexeme → Option (List Lexeme)
  | ⟨.less, _⟩ :: rest =>
    if rest.getLast?.any fun l => l.terminal = .greater then some rest.dropLast else none
  | _ => none

def OperandPhrase.ofLexemes? (ls : List Lexeme) : Option OperandPhrase :=
  match enclosed? ls with
  | some inner => (Phrase.ofLexemes? inner).map (⟨·, true⟩)
  | none => (Phrase.ofLexemes? ls).map (⟨·, false⟩)

/-- The pieces between commas; there is one more of them than there are commas. -/
def splitAtCommas : List Lexeme → List (List Lexeme)
  | [] => [[]]
  | l :: ls =>
    if l.terminal = .comma then [] :: splitAtCommas ls
    else match splitAtCommas ls with
      | [] => [[l]]
      | piece :: rest => (l :: piece) :: rest

namespace Sentence

def ofLexemes? (ls : List Lexeme) : Option Sentence :=
  let isPrefix := fun l : Lexeme => l.terminal = .prefixWord
  let prefixes := (ls.takeWhile isPrefix).map Lexeme.text
  match ls.dropWhile isPrefix with
  | [⟨.name, mnemonic⟩] => some ⟨prefixes, mnemonic, []⟩
  | ⟨.name, mnemonic⟩ :: rest =>
    ((splitAtCommas rest).mapM OperandPhrase.ofLexemes?).map (⟨prefixes, mnemonic, ·⟩)
  | _ => none

/-- Read the parts of an instruction text. -/
def parse? (text : String) : Option Sentence :=
  (Lexeme.scan .start 0 (Text.trim text.toList)).bind ofLexemes?

end Sentence

end AsmListing
