import Mathlib
import AsmListing.Numeral.Render
import AsmListing.Operand
import AsmListing.Proofs.Numeral.Value
import AsmListing.Proofs.Outcome

/-! Numbers that fit a width are written, in whichever form the options ask for. -/
namespace AsmListing

theorem twoPower_eq (n : Nat) : twoPower n = 2 ^ n := rfl

theorem twoPower_pos (n : Nat) : 0 < twoPower n := by
  rw [twoPower_eq]
  positivity

theorem twoPower_mono {m n : Nat} (h : m ≤ n) : twoPower m ≤ twoPower n := by
  rw [twoPower_eq, twoPower_eq]
  exact pow_le_pow_right₀ one_le_two h

theorem twoPower_eq_double {n : Nat} (h : 1 ≤ n) : twoPower n = 2 * twoPower (n - 1) := by
  obtain ⟨k, rfl⟩ := Nat.exists_eq_add_of_le h
  rw [twoPower_eq, twoPower_eq, Nat.add_sub_cancel_left, pow_add, pow_one]

theorem IntegerType.check_eq_ok {t : IntegerType} {value : Int} {u : Unit} :
    t.check value = .ok u ↔ t.HasWidth ∧ t.Holds value := by
  rw [check, Outcome.ite_error_eq_ok, not_not, Outcome.ite_eq_ok, and_iff_left rfl]

namespace NumberOptions
open Outcome

theorem overlong_iff {o : NumberOptions} {n : Nat} :
    o.Overlong n ↔ o.radix = .decimal ∧ 10 ^ Text.digitLimit ≤ n :=
  and_congr_right fun _ => Text.overlong_iff

theorem overlong_toNat_iff {o : NumberOptions} {v : Int} (h : 0 ≤ v) :
    o.Overlong v.toNat ↔ o.radix = .decimal ∧ 10 ^ Text.digitLimit ≤ v := by
  obtain ⟨n, rfl⟩ := Int.eq_ofNat_of_zero_le h
  rw [Int.toNat_natCast, overlong_iff]
  exact_mod_cast Iff.rfl

/-- The limit on digits is far from the numbers of up to eight bytes. -/
theorem not_overlong_of_lt (o : NumberOptions) {bits value : Int} (hbits : bits ≤ 64)
    (hhigh : value < twoPower bits.toNat) : ¬o.Overlong value.toNat := by
  rintro ⟨-, hlong⟩
  refine Text.not_overlong_of_lt ?_ hlong
  have hpower : twoPower bits.toNat ≤ twoPower 64 := twoPower_mono (by omega)
  have hsixtyFour : twoPower 64 = 2 ^ 64 := rfl
  omega

theorem unsigned_eq_ok {o : NumberOptions} {bits value : Int} {text : String} :
    o.unsigned bits value = .ok text ↔ 0 ≤ bits ∧ (0 ≤ value ∧ value < twoPower bits.toNat) ∧
      ¬o.Overlong value.toNat ∧ o.render bits.toNat value.toNat = text := by
  have hholds : IntegerType.Holds ⟨false, bits⟩ value ↔ 0 ≤ value ∧ value < twoPower bits.toNat :=
    and_congr_right fun _ => Int.le_sub_one_iff
  rw [unsigned, bind_eq_ok]
  simp only [IntegerType.check_eq_ok, hholds, ite_error_eq_ok]
  constructor
  · rintro ⟨_, ⟨hbits, hvalue⟩, hshort, ⟨⟩⟩
    exact ⟨hbits, hvalue, hshort, rfl⟩
  · rintro ⟨hbits, hvalue, hshort, rfl⟩
    exact ⟨(), ⟨hbits, hvalue⟩, hshort, rfl⟩

theorem unsigned_eq_render (o : NumberOptions) {bits value : Int} (hbits : 0 ≤ bits)
    (hlow : 0 ≤ value) (hhigh : value < twoPower bits.toNat) (hshort : ¬o.Overlong value.toNat) :
    o.unsigned bits value = .ok (o.render bits.toNat value.toNat) :=
  unsigned_eq_ok.mpr ⟨hbits, ⟨hlow, hhigh⟩, hshort, rfl⟩

/-- A number that fits the width fails to be written only for the limit on its digits. -/
theorem unsigned_eq_overlong {o : NumberOptions} {bits value : Int} (hbits : 0 ≤ bits)
    (hlow : 0 ≤ value) (hhigh : value < twoPower bits.toNat) (hlong : o.Overlong value.toNat) :
    o.unsigned bits value = .error .overlong := by
  have hcheck : IntegerType.check ⟨false, bits⟩ value = .ok () :=
    IntegerType.check_eq_ok.mpr ⟨hbits, hlow, Int.le_sub_one_of_lt hhigh⟩
  rw [unsigned, hcheck]
  exact if_pos hlong

/-- A signed number that fits the width is written by its sign and magnitude, or else as its
remainder. -/
theorem signed_eq_unsigned (o : NumberOptions) {bits value : Int} (hbits : 1 ≤ bits)
    (hlow : -twoPower (bits - 1).toNat ≤ value) (hhigh : value < twoPower (bits - 1).toNat) :
    o.signed bits value =
      if value < 0 ∧ o.signedNumber then (o.unsigned bits (-value)).map ("-" ++ ·)
      else o.unsigned bits (value % twoPower bits.toNat) := by
  have hcheck : IntegerType.check ⟨true, bits⟩ value = .ok () :=
    IntegerType.check_eq_ok.mpr ⟨hbits, hlow, Int.le_sub_one_of_lt hhigh⟩
  have hdouble : twoPower bits.toNat = 2 * twoPower (bits - 1).toNat := by
    rw [twoPower_eq_double (by omega), show (bits - 1).toNat = bits.toNat - 1 by omega]
  rw [signed, hcheck]
  change (if value < 0 then _ else _) = _
  by_cases hneg : value < 0
  · have hmod : value % twoPower bits.toNat = value + twoPower bits.toNat := by
      rw [← Int.add_emod_right, Int.emod_eq_of_lt (by omega) (by omega)]
    rw [if_pos hneg, hmod]
    by_cases hsign : o.signedNumber
    · rw [if_pos hsign, if_pos ⟨hneg, hsign⟩]
      rfl
    · rw [if_neg hsign, if_neg fun h => hsign h.2]
  · rw [if_neg hneg, if_neg fun h => hneg h.1, Int.emod_eq_of_lt (by omega) (by omega)]

/-- What is written for a signed number that fits the width. -/
def signedText (o : NumberOptions) (bits value : Int) : String :=
  if value < 0 ∧ o.signedNumber then "-" ++ o.render bits.toNat (-value).toNat
  else o.render bits.toNat (value % twoPower bits.toNat).toNat

theorem signed_eq_signedText (o : NumberOptions) {bits value : Int} (hbits : 1 ≤ bits)
    (hmost : bits ≤ 64) (hlow : -twoPower (bits - 1).toNat ≤ value)
    (hhigh : value < twoPower (bits - 1).toNat) :
    o.signed bits value = .ok (o.signedText bits value) := by
  have hdouble : twoPower bits.toNat = 2 * twoPower (bits - 1).toNat := by
    rw [twoPower_eq_double (by omega), show (bits - 1).toNat = bits.toNat - 1 by omega]
  have hwritten {n : Int} (h : 0 ≤ n ∧ n < twoPower bits.toNat) :
      o.unsigned bits n = .ok (o.render bits.toNat n.toNat) :=
    o.unsigned_eq_render (by omega) h.1 h.2 (o.not_overlong_of_lt hmost h.2)
  have hpos := twoPower_pos bits.toNat
  rw [o.signed_eq_unsigned hbits hlow hhigh, signedText]
  split
  · rw [hwritten (by omega)]
    rfl
  · exact hwritten ⟨Int.emod_nonneg _ hpos.ne', Int.emod_lt_of_pos _ hpos⟩

end NumberOptions

namespace Operand

/-- The two's complement reading of an immediate that fits the size of its operand. -/
theorem signedImmediate_eq_ok {op : Operand} (hsize : 1 ≤ op.size) :
    op.signedImmediate = .ok (if twoPower (8 * op.size - 1).toNat ≤ op.immediate then
      op.immediate - twoPower (8 * op.size).toNat else op.immediate) := by
  unfold signedImmediate
  rw [if_neg (by omega)]
  split <;> rfl

end Operand
end AsmListing
