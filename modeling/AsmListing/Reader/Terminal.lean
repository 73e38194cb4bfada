import AsmListing.Text.CharClass

/-! The terminals of instruction texts. Each says how many characters it takes from the front of a
text. Words are compared without regard to letter case, where the long s counts as an s and the
Kelvin sign as a k. -/
namespace AsmListing

inductive Terminal where
  | prefixWord | name | sizeWord | shortWord | decorator | number | sign
  | comma | colon | star | less | greater | openBracket | closeBracket
  deriving DecidableEq, Repr, Inhabited

namespace Terminal

def foldLetter (c : Char) : Char :=
  if c = '\u017f' then 's' else if c = '\u212a' then 'k' else c.toLower

/-- The letters of names: those of ASCII with all that count as one of them, among which are the
dotted capital and the dotless small i. -/
def isNameLetter (c : Char) : Bool :=
  (foldLetter c).isLower || c == '\u0130' || c == '\u0131'

def isNameChar (c : Char) : Bool := isNameLetter c || c.isDigit

/-- The word at the front of a text. -/
def wordOf (cs : List Char) : List Char := cs.takeWhile Text.isWordChar

def isOneOf (words : List String) (cs : List Char) : Bool :=
  words.contains (String.ofList (cs.map foldLetter))

def isHexDigit (c : Char) : Bool := c.isDigit || ('a' ≤ c.toLower && c.toLower ≤ 'f')

def isBit (c : Char) : Bool := c == '0' || c == '1'

/-- A zero and the given letter before digits. -/
def isMarked (letter : Char) (isDigit : Char → Bool) : List Char → Bool
  | '0' :: c :: ds => c.toLower == letter && !ds.isEmpty && ds.all isDigit
  | _ => false

/-- Hexadecimal digits, the first of them decimal, before an `h`. -/
def isSuffixedHex (w : List Char) : Bool :=
  match w.reverse with
  | c :: ds => c.toLower == 'h' && ds.all isHexDigit && ds.getLast?.any Char.isDigit
  | [] => false

def isDecimal (w : List Char) : Bool := !w.isEmpty && w.all Char.isDigit

def isNumber (w : List Char) : Bool :=
  isMarked 'x' isHexDigit w || isSuffixedHex w || isMarked 'b' isBit w || isDecimal w

def prefixWords : List String := ["lock", "rep", "repe", "repne"]

def sizeWords : List String := ["byte", "word", "dword", "qword", "xmmword"]

def decorators : List String :=
  ["\x7brn-sae\x7d", "\x7brd-sae\x7d", "\x7bru-sae\x7d", "\x7brz-sae\x7d"]

/-- The length of the word at the front, if it is accepted. -/
def wordLength? (accepts : List Char → Bool) (cs : List Char) : Option Nat :=
  let w := wordOf cs
  if accepts w then some w.length else none

/-- A size and the word `ptr`, with blanks between them. -/
def sizeLength? (cs : List Char) : Option Nat :=
  let w := wordOf cs
  let gap := (cs.drop w.length).takeWhile Text.isBlank
  let p := wordOf (cs.drop (w.length + gap.length))
  if isOneOf sizeWords w && !gap.isEmpty && isOneOf ["ptr"] p then
    some (w.length + gap.length + p.length)
  else none

def charLength? (accepts : Char → Bool) : List Char → Option Nat
  | c :: _ => if accepts c then some 1 else none
  | [] => none

/-- How many characters the terminal takes from the front of a text, if it stands there. -/
def length? : Terminal → List Char → Option Nat
  | .prefixWord, cs => wordLength? (isOneOf prefixWords) cs
  | .shortWord, cs => wordLength? (isOneOf ["short"]) cs
  | .number, cs => wordLength? isNumber cs
  | .sizeWord, cs => sizeLength? cs
  | .name, cs =>
    if cs.head?.any isNameLetter then some (cs.takeWhile isNameChar).length else none
  | .decorator, cs => if isOneOf decorators (cs.take 8) then some 8 else none
  | .sign, cs => charLength? (fun c => c == '+' || c == '-') cs
  | .comma, cs => charLength? (· == ',') cs
  | .colon, cs => charLength? (· == ':') cs
  | .star, cs => charLength? (· == '*') cs
  | .less, cs => charLength? (· == '<') cs
  | .greater, cs => charLength? (· == '>') cs
  | .openBracket, cs => charLength? (· == '[') cs
  | .closeBracket, cs => charLength? (· == ']') cs

private theorem wordLength_pos {accepts : List Char → Bool} {cs : List Char} {n : Nat}
    (hnil : accepts [] = false) (h : wordLength? accepts cs = some n) : 0 < n := by
  simp only [wordLength?] at h
  split at h
  · next ha =>
    cases hw : wordOf cs with
    | nil => simp [hw, hnil] at ha
    | cons c w => simp [hw] at h; omega
  · simp at h

private theorem charLength_pos {accepts : Char → Bool} {cs : List Char} {n : Nat}
    (h : charLength? accepts cs = some n) : 0 < n := by
  cases cs with
  | nil => simp [charLength?] at h
  | cons c cs => simp [charLength?] at h; omega

/-- A terminal takes at least one character. -/
theorem length?_pos {t : Terminal} {cs : List Char} {n : Nat} (h : t.length? cs = some n) :
    0 < n := by
  cases t with
  | prefixWord => exact wordLength_pos (by decide) h
  | shortWord => exact wordLength_pos (by decide) h
  | number => exact wordLength_pos rfl h
  | sizeWord =>
    simp only [length?, sizeLength?] at h
    split at h
    · next hs =>
      simp only [Bool.and_eq_true, Bool.not_eq_true', List.isEmpty_eq_false_iff] at hs
      have hg := List.length_pos_iff.mpr hs.1.2
      simp only [Option.some.injEq] at h
      omega
    · simp at h
  | name =>
    cases cs with
    | nil => simp [length?] at h
    | cons c cs =>
      by_cases hc : isNameLetter c
      · simp [length?, isNameChar, hc] at h
        omega
      · simp [length?, hc] at h
  | decorator =>
    simp only [length?] at h
    split at h
    · simp at h; omega
    · simp at h
  | sign | comma | colon | star | less | greater | openBracket | closeBracket =>
    exact charLength_pos h

end Terminal

end AsmListing
