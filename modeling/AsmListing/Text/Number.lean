/-! Numbers as messages show them. A number with more decimal digits than the limit has no decimal
form; hexadecimal forms have no limit. -/
namespace AsmListing.Text

/-- The most digits that a number can have when it is read from decimal digits or written in them. -/
def digitLimit : Nat := 4300

/-- The number has more decimal digits than can be written. -/
def Overlong (n : Nat) : Prop := digitLimit < (Nat.toDigits 10 n).length

instance (n : Nat) : Decidable (Overlong n) := by unfold Overlong; infer_instance

/-- The decimal form, unless it has too many digits. The sign does not count. -/
def decimal? (n : Int) : Option String := if Overlong n.natAbs then none else some (toString n)

/-- Reported for a number that is too long to be written. -/
def overlongMessage : String :=
  s!"Exceeds the limit ({digitLimit} digits) for integer string conversion; " ++
    "use sys.set_int_max_str_digits() to increase the limit"

/-- The lower-case hexadecimal digits of a number, padded with zeros to a width. -/
def hexDigits (width n : Nat) : List Char := (Nat.toDigits 16 n).leftpad width '0'

def hexForm (n : Int) : String :=
  (if n < 0 then "-0x" else "0x") ++ String.ofList (hexDigits 1 n.natAbs)

end AsmListing.Text
