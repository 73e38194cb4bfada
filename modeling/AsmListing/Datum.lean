import AsmListing.Text.Quoted

/-! Values whose kind has not been checked yet, and the form in which messages show them. -/
namespace AsmListing

inductive Datum where
  | null
  | flag (value : Bool)
  | integer (value : Int)
  /-- A number written with a point and the given count of digits behind it. -/
  | decimal (mantissa : Int) (places : Nat)
  | text (value : String)
  | list (items : List Datum)
  deriving Repr, Inhabited

namespace Datum

/-- The integer that a value equals. A flag counts as zero or one. -/
def number? : Datum → Option Int
  | .flag b => some (if b then 1 else 0)
  | .integer n => some n
  | .decimal mantissa places =>
    let unit := Int.pow 10 places
    if mantissa % unit = 0 then some (mantissa / unit) else none
  | _ => none

/-- At least one digit stands on either side of the point, and no zero more at the end. -/
def decimalForm (mantissa : Int) (places : Nat) : String :=
  let ds := (Nat.toDigits 10 mantissa.natAbs).leftpad (places + 1) '0'
  let whole := ds.take (ds.length - places)
  let fraction := ((ds.drop (ds.length - places)).reverse.dropWhile (· == '0')).reverse
  String.ofList ((if mantissa < 0 then ['-'] else []) ++ whole ++ '.' :: fraction.rightpad 1 '0')

mutual

/-- A value with an overlong integer in it cannot be shown. -/
def display : Datum → Option String
  | .null => some "None"
  | .flag true => some "True"
  | .flag false => some "False"
  | .integer n => Text.decimal? n
  | .decimal mantissa places => some (decimalForm mantissa places)
  | .text s => some (Text.quoted s)
  | .list items => (displayItems items).map fun shown => "[" ++ shown ++ "]"

def displayItems : List Datum → Option String
  | [] => some ""
  | [d] => d.display
  | d :: ds => do return (← d.display) ++ ", " ++ (← displayItems ds)

end

end Datum

end AsmListing
