import AsmListing.Text.CharClass
import AsmListing.Text.Number

/-! Integer literals: blanks, a sign, a radix marker such as `0x`, and digits with single
underscores between them. Decimal digits of every script are accepted. A decimal literal has at most
`Text.digitLimit` digits. -/
namespace AsmListing.Numeral

/-- Why a text is no literal. -/
inductive Fault where
  | malformed
  /-- There are so many decimal digits, more than the limit allows. -/
  | overlong (count : Nat)
  deriving DecidableEq, Repr

/-- Write the decimal digits and blanks of other scripts as their ASCII counterparts. -/
def plainChar (c : Char) : Char :=
  if c.toNat < 127 then c
  else if Text.isBlank c then ' '
  else match Text.decimalValue? c with
    | some d => Nat.digitChar d
    | none => c

/-- The blanks that may surround a literal in plain characters. -/
def isOuterBlank (c : Char) : Bool := (9 ≤ c.toNat && c.toNat ≤ 13) || c == ' '

/-- Letters of either case continue the digits from ten. -/
def digitValue? (c : Char) : Option Nat :=
  if c.isDigit then some (c.toNat - 48)
  else if c.isLower then some (c.toNat - 87)
  else if c.isUpper then some (c.toNat - 55)
  else none

/-- The value of digits behind `acc`. An underscore has to stand between two digits, so it is
refused unless the character before it was a digit. -/
def digitRun? (radix acc : Nat) (afterDigit : Bool) : List Char → Option Nat
  | [] => if afterDigit then some acc else none
  | '_' :: cs => if afterDigit then digitRun? radix acc false cs else none
  | c :: cs => match digitValue? c with
    | some d => if d < radix then digitRun? radix (radix * acc + d) true cs else none
    | none => none

/-- What follows a zero and the given letter, in either case, and one underscore if there is one. -/
def afterMarker? (letter : Char) : List Char → Option (List Char)
  | '0' :: c :: '_' :: cs => if c.toLower = letter then some cs else none
  | '0' :: c :: cs => if c.toLower = letter then some cs else none
  | _ => none

/-- How many decimal digits there are before the first character that is neither a digit nor an
underscore, counted on from `count`. There is no count if an underscore stands elsewhere than between
two digits. -/
def decimalCount? (count : Nat) (afterDigit : Bool) : List Char → Option Nat
  | [] => if afterDigit then some count else none
  | '_' :: cs => if afterDigit then decimalCount? count false cs else none
  | c :: cs =>
    if c.isDigit then decimalCount? (count + 1) true cs
    else if afterDigit then some count else none

/-- A text that is nothing but digits of the radix and underscores between them. -/
def plainMagnitude (radix : Nat) (cs : List Char) : Except Fault Nat :=
  (digitRun? radix 0 false cs).elim (.error .malformed) .ok

/-- Decimal digits are counted before they are read, so too many of them are reported even if
something else follows. -/
def decimalMagnitude (cs : List Char) : Except Fault Nat :=
  match (decimalCount? 0 false cs).filter (Text.digitLimit < ·) with
  | some count => .error (.overlong count)
  | none => plainMagnitude 10 cs

/-- The digits in the stated radix, after its marker if it stands there. -/
def magnitude (radix : Nat) (cs : List Char) : Except Fault Nat :=
  match radix with
  | 16 => plainMagnitude 16 ((afterMarker? 'x' cs).getD cs)
  | 8 => plainMagnitude 8 ((afterMarker? 'o' cs).getD cs)
  | 2 => plainMagnitude 2 ((afterMarker? 'b' cs).getD cs)
  | _ => decimalMagnitude cs

/-- The digits in the radix that their marker states. Without a marker they are decimal, and only
zero may start with a zero. -/
def markedMagnitude (cs : List Char) : Except Fault Nat :=
  if (afterMarker? 'x' cs).isSome then magnitude 16 cs
  else if (afterMarker? 'o' cs).isSome then magnitude 8 cs
  else if (afterMarker? 'b' cs).isSome then magnitude 2 cs
  else do
    let n ← decimalMagnitude cs
    if cs.head? = some '0' ∧ n ≠ 0 then .error .malformed else return n

/-- Read a literal whose digits are read by `body`. -/
def literalWith (body : List Char → Except Fault Nat) (cs : List Char) : Except Fault Int :=
  let plain := ((cs.map plainChar).dropWhile isOuterBlank).reverse.dropWhile isOuterBlank
  match plain.reverse with
  | '-' :: ds => (body ds).map fun n => -(n : Int)
  | '+' :: ds => (body ds).map fun n => (n : Int)
  | ds => (body ds).map fun n => (n : Int)

/-- A literal in radix 2, 8, 10 or 16. -/
def literal (radix : Nat) (cs : List Char) : Except Fault Int := literalWith (magnitude radix) cs

def markedLiteral (cs : List Char) : Except Fault Int := literalWith markedMagnitude cs

end AsmListing.Numeral
