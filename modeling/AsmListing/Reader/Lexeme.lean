import AsmListing.Reader.Terminal

/-! Cutting a text into lexemes. At each place of an instruction only the terminals that may come
next are looked for, in an order of preference, so one spelling can be a prefix here and a name
there. -/
namespace AsmListing

structure Lexeme where
  terminal : Terminal
  text : String
  deriving DecidableEq, Repr, Inhabited

/-- Where in an instruction a lexeme ends. The flag says whether it stands in angle brackets. -/
inductive Place where
  | start
  | afterMnemonic
  | afterComma
  | afterLess
  | afterWord (angle : Bool)
  /-- Only a number can follow. -/
  | beforeNumber (angle : Bool)
  | afterSize (angle : Bool)
  | afterSegment (angle : Bool)
  | beforeBracket (angle : Bool)
  | beforeTerm (angle : Bool)
  | afterTermName (angle : Bool)
  | afterStar (angle : Bool)
  | afterTerm (angle : Bool)
  | afterOperand (angle : Bool)
  deriving DecidableEq, Repr, Inhabited

namespace Place

/-- What an operand can start with. -/
def operandStarts (angle : Bool) : List (Terminal × Place) :=
  [(.sizeWord, .afterSize angle), (.shortWord, .beforeNumber angle), (.name, .afterWord angle),
   (.sign, .beforeNumber angle), (.number, .afterOperand angle),
   (.openBracket, .beforeTerm angle), (.decorator, .afterOperand angle)]

def operandEnds (angle : Bool) : List (Terminal × Place) :=
  if angle then [(.greater, .afterOperand false)] else [(.comma, .afterComma)]

def termEnds (angle : Bool) : List (Terminal × Place) :=
  [(.sign, .beforeTerm angle), (.closeBracket, .afterOperand angle)]

/-- The terminals that can follow, the preferred ones first, each with the place it leads to. -/
def next : Place → List (Terminal × Place)
  | .start => [(.prefixWord, .start), (.name, .afterMnemonic)]
  | .afterMnemonic | .afterComma => operandStarts false ++ [(.less, .afterLess)]
  | .afterLess => operandStarts true
  | .afterWord angle => (.colon, .beforeBracket angle) :: operandEnds angle
  | .beforeNumber angle => [(.number, .afterOperand angle)]
  | .afterSize angle => [(.name, .afterSegment angle), (.openBracket, .beforeTerm angle)]
  | .afterSegment angle => [(.colon, .beforeBracket angle)]
  | .beforeBracket angle => [(.openBracket, .beforeTerm angle)]
  | .beforeTerm angle => [(.name, .afterTermName angle), (.number, .afterTerm angle)]
  | .afterTermName angle => (.star, .afterStar angle) :: termEnds angle
  | .afterStar angle => [(.number, .afterTerm angle)]
  | .afterTerm angle => termEnds angle
  | .afterOperand angle => operandEnds angle

/-- Whether an instruction can end here. -/
def accepts : Place → Bool
  | .afterMnemonic | .afterWord false | .afterOperand false => true
  | _ => false

/-- The preferred terminal at the front of a text, with the place after it and its length. -/
def read? (place : Place) (cs : List Char) : Option (Terminal × Place × Nat) :=
  place.next.findSome? fun (t, after) => (t.length? cs).map fun n => (t, after, n)

end Place

/-- The blanks that may stand between lexemes. -/
def isGap (c : Char) : Bool :=
  c == ' ' || c == '\t' || c == '\n' || c == '\r' || c == '\x0c'

/-- The lexemes from a place on, when `left` more characters belong to the lexeme before it. -/
def Lexeme.scan (place : Place) (left : Nat) : List Char → Option (List Lexeme)
  | [] => if place.accepts then some [] else none
  | c :: cs => match left with
    | left + 1 => scan place left cs
    | 0 =>
      if isGap c then scan place 0 cs
      else match place.read? (c :: cs) with
        | some (t, after, n) =>
          (scan after (n - 1) cs).map (⟨t, String.ofList ((c :: cs).take n)⟩ :: ·)
        | none => none

/-- The characters that belong to the lexeme before are passed over. -/
theorem Lexeme.scan_eq_scan_drop (place : Place) (left : Nat) (cs : List Char) :
    scan place left cs = scan place 0 (cs.drop left) := by
  induction cs generalizing left with
  | nil => rw [List.drop_nil, scan, scan]
  | cons c cs ih =>
    cases left with
    | zero => rfl
    | succ left => rw [scan, List.drop_succ_cons, ih]

end AsmListing
