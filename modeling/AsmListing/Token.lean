/-! Classified pieces of text, of which written instructions consist. -/
namespace AsmListing

inductive TokenClass where
  | plain | prefixWord | mnemonic | keyword | operator | punctuation | number | register
  | decorator | address | separator | space | beginMemory | endMemory
  deriving DecidableEq, Repr, Inhabited

/-- What a reader is told about a piece of text. -/
inductive TextKind where
  | text | prefixWord | mnemonic | keyword | operator | punctuation | number | register
  | decorator | address | separator | whitespace
  deriving DecidableEq, Repr, Inhabited

namespace TokenClass

/-- The brackets around a memory operand are punctuation. -/
def kind : TokenClass → TextKind
  | .plain => .text
  | .prefixWord => .prefixWord
  | .mnemonic => .mnemonic
  | .keyword => .keyword
  | .operator => .operator
  | .punctuation => .punctuation
  | .number => .number
  | .register => .register
  | .decorator => .decorator
  | .address => .address
  | .separator => .separator
  | .space => .whitespace
  | .beginMemory => .punctuation
  | .endMemory => .punctuation

def label : TokenClass → String
  | .plain => "Token"
  | .prefixWord => "TPrefix"
  | .mnemonic => "TInstr"
  | .keyword => "TKeyword"
  | .operator => "TOperator"
  | .punctuation => "TPunct"
  | .number => "TInt"
  | .register => "TReg"
  | .decorator => "TDecorator"
  | .address => "TAddr"
  | .separator => "TSep"
  | .space => "TSpace"
  | .beginMemory => "TBegMem"
  | .endMemory => "TEndMem"

def all : List TokenClass :=
  [.plain, .prefixWord, .mnemonic, .keyword, .operator, .punctuation, .number, .register,
   .decorator, .address, .separator, .space, .beginMemory, .endMemory]

def ofLabel? (s : String) : Option TokenClass := all.find? fun c => c.label == s

/-- The text of a token of the class when none is given. -/
def defaultText : TokenClass → String
  | .beginMemory => "["
  | .endMemory => "]"
  | _ => ""

end TokenClass

def TextKind.name : TextKind → String
  | .text => "text"
  | .prefixWord => "prefix"
  | .mnemonic => "mnemonic"
  | .keyword => "keyword"
  | .operator => "operator"
  | .punctuation => "punctuation"
  | .number => "number"
  | .register => "register"
  | .decorator => "decorator"
  | .address => "address"
  | .separator => "separator"
  | .whitespace => "whitespace"

structure Token where
  cls : TokenClass
  text : String
  deriving DecidableEq, Repr, Inhabited

namespace Token

def kind (t : Token) : TextKind := t.cls.kind

def display (t : Token) : String := t.cls.label ++ "(" ++ t.text ++ ")"

/-- The text of a sequence of tokens. -/
def textOf (ts : List Token) : String := String.join (ts.map Token.text)

/-- The tokens without repetitions, each at its first place. -/
def distinct (ts : List Token) : List Token := ts.eraseDups

end Token

end AsmListing
