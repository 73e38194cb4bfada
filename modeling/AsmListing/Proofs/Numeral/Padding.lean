import Mathlib
import AsmListing.Proofs.Numeral.Separation

/-! How many digits are written. Padded with zeros, all numbers of a width have the same number of
digits, and neither the groups nor a zero before a letter disturb this. -/
namespace AsmListing

theorem Radix.value_eq_two_pow {radix : Radix} {k : Nat} (h : radix.bitsPerDigit? = some k) :
    radix.value = 2 ^ k ∧ 0 < k := by
  cases radix with
  | decimal => cases h
  | binary | octal | hexadecimal =>
    cases h
    exact ⟨rfl, by decide⟩

namespace Numeral

theorem length_digits_le {radix : Radix} {n width : Nat} (upperCase : Bool) (hwidth : 0 < width)
    (hn : n < radix.value ^ width) : (digits radix upperCase n).length ≤ width := by
  have hone : 1 < radix.value := by cases radix <;> decide
  have hlength : (digits radix upperCase n).length = (Nat.toDigits radix.value n).length := by
    cases upperCase <;> simp [digits]
  rw [hlength]
  exact (Nat.length_toDigits_le_iff hone hwidth).mpr hn

/-- The digits from ten on are the letters from A to F. -/
theorem isAlpha_iff_of_isDigit {c : Char} (h : IsDigit 16 c) :
    c.isAlpha ↔ c.toUpper ∈ ['A', 'B', 'C', 'D', 'E', 'F'] :=
  forall_digit (P := fun c => c.isAlpha ↔ c.toUpper ∈ ['A', 'B', 'C', 'D', 'E', 'F'])
    (by decide +kernel) h

end Numeral

namespace NumberOptions
open Numeral
variable {o : NumberOptions} {bits n k : Nat}

/-- No number of a width needs more digits than the bits divided by those of a digit, rounded up. -/
private theorem lt_value_pow (hk : o.radix.bitsPerDigit? = some k) (hn : n < 2 ^ bits) :
    n < o.radix.value ^ (bits ⌈/⌉ k) := by
  obtain ⟨hvalue, hpos⟩ := Radix.value_eq_two_pow hk
  calc
    n < 2 ^ bits := hn
    _ ≤ 2 ^ (k * (bits ⌈/⌉ k)) := Nat.pow_le_pow_right (by decide) (le_smul_ceilDiv hpos)
    _ = o.radix.value ^ (bits ⌈/⌉ k) := by rw [hvalue, pow_mul]

theorem length_padded (hzeros : o.leadingZeros) (hk : o.radix.bitsPerDigit? = some k) (hbits : 1 ≤ bits)
    (hn : n < 2 ^ bits) : (o.padded bits n).length = bits ⌈/⌉ k := by
  have hpos : 0 < bits ⌈/⌉ k := by
    apply Nat.pos_of_ne_zero
    intro hzero
    have hle : bits ≤ k * (bits ⌈/⌉ k) := le_smul_ceilDiv (Radix.value_eq_two_pow hk).2
    rw [hzero, Nat.mul_zero] at hle
    omega
  have hpadded : o.padded bits n = (digits o.radix (o.radix = .hexadecimal && o.uppercaseHex) n).leftpad
      (bits ⌈/⌉ k) '0' := by
    simp only [padded, hk, hzeros, if_true]
    rfl
  rw [hpadded, List.length_leftpad]
  exact max_eq_left (length_digits_le _ hpos (lt_value_pow hk hn))

/-- The zero before a letter is asked for by the first of the padded digits. -/
private theorem startedWithDigit_cons {top : Char} {rest : List Char}
    (h : ∀ c ∈ top :: rest, IsDigit o.radix.value c) : o.startedWithDigit (top :: rest) =
      if o.radix = .hexadecimal ∧ o.leadingZeroBeforeHexLetter ∧ o.numberPrefix = "" ∧
        top.toUpper ∈ ['A', 'B', 'C', 'D', 'E', 'F'] then '0' :: top :: rest else top :: rest := by
  have hletter : o.radix = .hexadecimal →
      (top.isAlpha ↔ top.toUpper ∈ ['A', 'B', 'C', 'D', 'E', 'F']) := by
    intro hradix
    have htop := h top List.mem_cons_self
    rw [hradix] at htop
    exact isAlpha_iff_of_isDigit htop
  rw [startedWithDigit]
  apply if_congr _ rfl rfl
  apply and_congr_right
  intro hradix
  exact and_congr_right fun _ => and_congr_right fun _ => hletter hradix

/-- The digits in front of the suffix do not start with a letter where that is ruled out. -/
private theorem head?_body (hradix : o.radix = .hexadecimal) (hzero : o.leadingZeroBeforeHexLetter)
    (hempty : o.numberPrefix = "") (bits n : Nat) : (o.body bits n).head?.any Char.isDigit := by
  rw [body_eq]
  apply head?_startedWithDigit hradix hzero hempty
  rw [head?_grouped]
  exact (o.denotes_padded bits n).head_isAlphanum

private theorem head?_render (hradix : o.radix = .hexadecimal) (hzero : o.leadingZeroBeforeHexLetter)
    (hempty : o.numberPrefix = "") (hsmall : o.smallHexInDecimal → n ≤ 9 → o.decimalPrefix = "")
    (bits : Nat) : (o.render bits n).toList.head?.any Char.isDigit := by
  have hfront {cs ds : List Char} (h : cs.head?.any Char.isDigit) :
      (cs ++ ds).head?.any Char.isDigit := by
    cases cs with
    | nil => cases h
    | cons c cs => exact h
  rw [render]
  split
  · next hdecimal =>
    obtain ⟨c, cs, hcs⟩ := List.exists_cons_of_ne_nil (Nat.toDigits_ne_nil (b := 10) (n := n))
    have hc : c.isDigit := Nat.isDigit_of_mem_toDigits (b := 10) (by decide) (by decide)
      (hcs ▸ List.mem_cons_self)
    have htext : (toString n).toList = c :: cs := String.toList_ofList.trans hcs
    rw [hsmall hdecimal.2.1 hdecimal.2.2, String.empty_append, String.toList_append, htext]
    exact hfront hc
  · rw [hempty, String.empty_append, String.toList_append, String.toList_ofList]
    exact hfront (head?_body hradix hzero hempty bits n)

/-- With leading zeros the digits of every number of a width are as many as the width asks for, and one
zero more stands before them just if the first would be a letter in front of everything. With or without
leading zeros, such a letter never comes first. Only decimal digits are limited in number. -/
theorem padding_fills_width (ho : o.checked = .ok o) (hbits : 1 ≤ bits) {v : Int} (hlow : 0 ≤ v)
    (hhigh : v < 2 ^ bits) (hshort : o.radix = .decimal → v < 10 ^ Text.digitLimit) :
    ∃ text, o.unsigned bits v = .ok text ∧
      (o.leadingZeros → ∀ k, o.radix.bitsPerDigit? = some k →
        ¬(o.radix = .hexadecimal ∧ o.smallHexInDecimal ∧ v ≤ 9) →
        ∃ body top rest, text = o.numberPrefix ++ String.ofList body ++ o.numberSuffix ∧
          (top :: rest).length = bits ⌈/⌉ k ∧ Denotes o.radix.value v.toNat (top :: rest) ∧
          removed o.digitSeparator.toList body =
            if o.radix = .hexadecimal ∧ o.leadingZeroBeforeHexLetter ∧ o.numberPrefix = "" ∧
              top.toUpper ∈ ['A', 'B', 'C', 'D', 'E', 'F'] then '0' :: top :: rest else top :: rest) ∧
      (o.radix = .hexadecimal → o.leadingZeroBeforeHexLetter → o.numberPrefix = "" →
        (o.smallHexInDecimal → v ≤ 9 → o.decimalPrefix = "") → text.toList.head?.any Char.isDigit) := by
  have hn : v.toNat < 2 ^ bits := by
    zify
    rwa [Int.toNat_of_nonneg hlow]
  have hnine : v.toNat ≤ 9 ↔ v ≤ 9 := by omega
  rw [← not_le, ← not_and, ← overlong_toNat_iff hlow] at hshort
  refine ⟨_, o.unsigned_eq_render (Int.natCast_nonneg bits) hlow hhigh hshort, ?_, ?_⟩
  · intro hzeros k hk hlarge
    have hdenotes := o.denotes_padded bits v.toNat
    obtain ⟨top, rest, hpadded⟩ := List.exists_cons_of_ne_nil hdenotes.ne_nil
    have hlength := length_padded hzeros hk hbits hn
    rw [hpadded] at hdenotes hlength
    refine ⟨o.body bits v.toNat, top, rest, ?_, hlength, hdenotes, ?_⟩
    · have hlarge' : ¬(o.radix = .hexadecimal ∧ o.smallHexInDecimal ∧ v.toNat ≤ 9) := by rwa [hnine]
      rw [Int.toNat_natCast, render, if_neg hlarge']
    · rw [removed_body ho, hpadded, startedWithDigit_cons hdenotes.isDigit]
  · intro hradix hzero hempty hsmall
    exact head?_render hradix hzero hempty (fun h hle => hsmall h (hnine.mp hle)) _

/-- The letter in front stands in a group of its own, and a width that is no multiple of four is rounded
up. -/
theorem padding_fills_width_lone_letter :
    let o : NumberOptions := {
      numberSuffix := "h", digitSeparator := "_", groupSize := 2, uppercaseHex := false,
      leadingZeros := true }
    o.checked = .ok o ∧ o.unsigned 12 0xabc = .ok "0a_bch" ∧ o.unsigned 11 0x1f = .ok "0_1fh" ∧
      "0a_bch".toList.head?.any Char.isDigit ∧
      ∃ body top rest, "0a_bch" = String.ofList body ++ "h" ∧ (top :: rest).length = 3 ∧
        Denotes 16 0xabc (top :: rest) ∧ removed ['_'] body =
          if top.toUpper ∈ ['A', 'B', 'C', 'D', 'E', 'F'] then '0' :: top :: rest else top :: rest := by
  intro o
  have ho : o.checked = .ok o := by cbv
  have hwritten : o.unsigned 12 0xabc = .ok "0a_bch" := by cbv
  obtain ⟨text, htext, hfills, hhead⟩ :=
    padding_fills_width ho (show 1 ≤ 12 by decide) (v := 0xabc) (by decide) (by decide)
      fun h => absurd h (by decide)
  cases Except.ok.inj (htext.symm.trans hwritten)
  refine ⟨ho, hwritten, by cbv, hhead rfl rfl rfl fun _ h => absurd h (by decide), ?_⟩
  obtain ⟨body, top, rest, hbody, hlength, hdenotes, hremoved⟩ := hfills rfl 4 rfl (by decide)
  exact ⟨body, top, rest, by simpa [o] using hbody, hlength, hdenotes, by simpa [o] using hremoved⟩

end NumberOptions
end AsmListing
