import AsmListing.Numeral.Radix

/-! The digits of a number and their arrangement in groups. -/
namespace AsmListing.Numeral

/-- The shortest digits of a number, most significant first. -/
def digits (radix : Radix) (upperCase : Bool) (n : Nat) : List Char :=
  let ds := Nat.toDigits radix.value n
  if upperCase then ds.map Char.toUpper else ds

/-- Cut a list into groups, counted from the right: all have the given size but the first, which
takes what is left. -/
def groups (size : Nat) : List Char → List (List Char)
  | [] => []
  | d :: ds => match groups size ds with
    | [] => [[d]]
    | g :: gs => if g.length < size then (d :: g) :: gs else [d] :: g :: gs

/-- Grouping loses no digit. -/
theorem flatten_groups (size : Nat) (ds : List Char) : (groups size ds).flatten = ds := by
  induction ds with
  | nil => rfl
  | cons d ds ih =>
    rw [groups]
    split
    · next h => simpa [h] using ih
    · next g gs h =>
      rw [h] at ih
      split <;> simpa using ih

def grouped (separator : List Char) (size : Nat) (ds : List Char) : List Char :=
  if separator.isEmpty ∨ size = 0 then ds else separator.intercalate (groups size ds)

end AsmListing.Numeral
