import Mathlib
import AsmListing.Proofs.Numeral.Presets
import AsmListing.Proofs.Operand.Construction

/-! Immediates as they are written. The text shows one integer of the width, with a sign or without it,
and it is the value of the immediate up to a multiple of the width. -/
namespace AsmListing

namespace Numeral
variable {n : Nat} {w : List Char}

/-- The integer in a text: a number that may follow a minus sign. -/
def integer? (text : String) : Option Int :=
  match text.toList with
  | '-' :: w => if Terminal.isNumber w then (readNumber (String.ofList w)).toOption.map (- ·) else none
  | w => if Terminal.isNumber w then (readNumber (String.ofList w)).toOption else none

theorem Spells.integer?_ofList (h : Spells n w) (hshort : ¬TooLong w) :
    integer? (String.ofList w) = some (n : Int) := by
  unfold integer?
  rw [String.toList_ofList]
  split
  · have hdigit : '-'.isDigit := h.head_isDigit
    cases hdigit
  · rw [if_pos h.isNumber, h.readNumber hshort]
    rfl

theorem Spells.integer?_minus (h : Spells n w) (hshort : ¬TooLong w) :
    integer? ("-" ++ String.ofList w) = some (-(n : Int)) := by
  have hlist : ("-" ++ String.ofList w).toList = '-' :: w := by simp
  unfold integer?
  rw [hlist]
  simp only [if_pos h.isNumber, h.readNumber hshort]
  rfl

end Numeral

namespace Formatter
variable {f : Formatter} {op : Operand}

theorem shownImmediate_modEq (f : Formatter) (op : Operand) :
    f.shownImmediate op ≡ op.immediate [ZMOD twoPower (8 * op.size).toNat] := by
  unfold shownImmediate
  split
  · exact Int.sub_modulus_modEq_iff.mpr rfl
  · rfl

/-- Signed immediates are shown in the range of signed integers, and all others without a sign. -/
theorem shownImmediate_bounds (hsize : 1 ≤ op.size) (hlow : 0 ≤ op.immediate)
    (hhigh : op.immediate < twoPower (8 * op.size).toNat) :
    if op.signed ∧ f.options.signedImmediates then
      -twoPower ((8 * op.size).toNat - 1) ≤ f.shownImmediate op ∧
        f.shownImmediate op < twoPower ((8 * op.size).toNat - 1)
    else 0 ≤ f.shownImmediate op ∧ f.shownImmediate op < twoPower (8 * op.size).toNat := by
  have hdouble := @twoPower_eq_double (8 * op.size).toNat (by omega)
  unfold shownImmediate
  rw [show (8 * op.size - 1).toNat = (8 * op.size).toNat - 1 by omega]
  by_cases hsigned : op.signed ∧ f.options.signedImmediates
  · simp only [hsigned.1, hsigned.2, true_and, and_self, if_true]
    split <;> omega
  · rw [if_neg hsigned, if_neg fun h => hsigned ⟨h.1, h.2.1⟩]
    exact ⟨hlow, hhigh⟩

private theorem natAbs_shownImmediate_lt (hsize : 1 ≤ op.size) (hmost : op.size ≤ 8)
    (hlow : 0 ≤ op.immediate) (hhigh : op.immediate < twoPower (8 * op.size).toNat) :
    (f.shownImmediate op).natAbs < 2 ^ 64 := by
  have hbounds := @shownImmediate_bounds f op hsize hlow hhigh
  have hpower : twoPower (8 * op.size).toNat ≤ twoPower 64 := twoPower_mono (by omega)
  have hhalf := @twoPower_eq_double (8 * op.size).toNat (by omega)
  have hpos := twoPower_pos ((8 * op.size).toNat - 1)
  have hsixtyFour : twoPower 64 = 2 ^ 64 := rfl
  split at hbounds <;> omega

theorem integer?_immediateText (hf : f.Valid)
    (hlegible : (NumberOptions.drawn .immediate f.options).Legible) (hsize : 1 ≤ op.size)
    (hmost : op.size ≤ 8) (hlow : 0 ≤ op.immediate) (hhigh : op.immediate < twoPower (8 * op.size).toNat) :
    ∃ text, f.immediateText op = .ok text ∧ Numeral.integer? text = some (f.shownImmediate op) := by
  have hlt := @natAbs_shownImmediate_lt f op hsize hmost hlow hhigh
  refine ⟨_, immediateText_eq_ok hf hsize hmost hlow hhigh, ?_⟩
  split
  · next hneg =>
    have hspells := hlegible.spells (8 * op.size).toNat (-f.shownImmediate op).toNat
    have hinteger := hspells.integer?_minus (hlegible.not_tooLong_of_lt (by omega) _)
    rwa [String.ofList_toList, Int.toNat_of_nonneg (by omega), neg_neg] at hinteger
  · next hneg =>
    have hspells := hlegible.spells (8 * op.size).toNat (f.shownImmediate op).toNat
    have hinteger := hspells.integer?_ofList (hlegible.not_tooLong_of_lt (by omega) _)
    rwa [String.ofList_toList, Int.toNat_of_nonneg (by omega)] at hinteger

/-- A mark of the dialect may stand before the number, and it is no part of it. -/
theorem realOperand_immediate {text : String} (hkind : op.kind = .immediate)
    (htext : f.immediateText op = .ok text) :
    (f.realOperand op).failure = none ∧
      (f.realOperand op).tokens.filter (·.cls = .number) = [⟨.number, text⟩] := by
  rw [realOperand, hkind]
  simp only [immediate, htext, Emission.ofExcept, Emission.write_eq_ofTokens, Emission.when_ofTokens,
    Emission.ofTokens_append, Emission.failure_ofTokens, Emission.tokens_ofTokens, true_and]
  split <;> rfl

/-- The formatter of a dialect with numbers in another style, and signs of immediates shown or not. -/
def styled (d : Dialect) (style : FormatOptions.NumberStyle) (signs : Bool) : Formatter :=
  ⟨d, { d.defaults.restyled style with signedImmediates := signs }⟩

/-- An immediate is built just if its value fits its size, as a signed integer or without a sign. Each
dialect then writes one number for it, whose text stands for the value up to a multiple of the width. -/
theorem immediates_keep_value (v size : Int) (signed : Bool) :
    ((∃ op, Operand.ofImmediate v size signed = .ok op) ↔ size ∈ ([1, 2, 4, 8] : List Int) ∧
      -2 ^ ((8 * size).toNat - 1) ≤ v ∧ v < 2 ^ (8 * size).toNat) ∧
    ∀ op, Operand.ofImmediate v size signed = .ok op →
      ∀ d ∈ [Dialect.intel, .masm, .nasm, .gas], ∀ style : FormatOptions.NumberStyle,
        d.defaults.Marks style.radix → ∀ signs : Bool,
          ((styled d style signs).realOperand op).failure = none ∧ ∃ text n,
            ((styled d style signs).realOperand op).tokens.filter (·.cls = .number) =
              [⟨.number, text⟩] ∧
            Numeral.integer? text = some n ∧ n ≡ v [ZMOD 2 ^ (8 * size).toNat] ∧
            if (signed ∨ v < 0) ∧ signs then
              -2 ^ ((8 * size).toNat - 1) ≤ n ∧ n < 2 ^ ((8 * size).toNat - 1)
            else 0 ≤ n ∧ n < 2 ^ (8 * size).toNat := by
  refine ⟨by simp [Operand.ofImmediate_eq_ok, twoPower_eq], ?_⟩
  intro op hop d hd style hradix signs
  obtain ⟨hsize, -, hbuilt⟩ := Operand.ofImmediate_eq_ok.mp hop
  have hpreset : d.defaults ∈ FormatOptions.presets := List.mem_map_of_mem (f := Dialect.defaults) hd
  have hstyle := FormatOptions.restyled_marksAs hpreset style
  have hmarks : (styled d style signs).options.MarksAs d.defaults :=
    ⟨hstyle.affixes, hstyle.unseparated, hstyle.leadingZero⟩
  have hpos := twoPower_pos (8 * size).toNat
  have hone : 1 ≤ op.size := hbuilt ▸ Operand.one_le_of_mem hsize
  have hmost : op.size ≤ 8 := hbuilt ▸ Operand.le_eight_of_mem hsize
  have hlow : 0 ≤ op.immediate := hbuilt ▸ Int.emod_nonneg v hpos.ne'
  have hhigh : op.immediate < twoPower (8 * op.size).toNat := hbuilt ▸ Int.emod_lt_of_pos v hpos
  obtain ⟨text, htext, hinteger⟩ := integer?_immediateText hmarks.checked
    (hmarks.legible hpreset hradix .immediate) hone hmost hlow hhigh
  have hbounds := @shownImmediate_bounds (styled d style signs) op hone hlow hhigh
  have hcongr := shownImmediate_modEq (styled d style signs) op
  obtain ⟨hwritten, hnumber⟩ := realOperand_immediate (hbuilt ▸ rfl) htext
  subst hbuilt
  refine ⟨hwritten, text, _, hnumber, hinteger, hcongr.trans (Int.mod_modEq v _), ?_⟩
  simpa [styled, twoPower_eq] using hbounds

/-- Of a value and its negative, only one is in the signed range at its end. -/
theorem immediates_keep_value_least :
    ∃ op n, Operand.ofImmediate 128 1 true = .ok op ∧
      ((styled .gas {} true).realOperand op).tokens = [⟨.punctuation, "$"⟩, ⟨.number, "-0x80"⟩] ∧
      Numeral.integer? "-0x80" = some n ∧ n ≡ 128 [ZMOD 2 ^ 8] ∧ -2 ^ 7 ≤ n ∧ n < 2 ^ 7 := by
  have hkeep := immediates_keep_value 128 1 true
  obtain ⟨op, hop⟩ := hkeep.1.mpr (by decide)
  have hgas := hkeep.2 op hop .gas (by simp) {} (.inl rfl) true
  obtain ⟨-, text, n, hnumber, hinteger, hcongr, hbounds⟩ := hgas
  have htokens : ((styled .gas {} true).realOperand op).tokens =
      [⟨.punctuation, "$"⟩, ⟨.number, "-0x80"⟩] := by
    cases hop
    cbv
  rw [htokens] at hnumber
  cases hnumber
  exact ⟨op, n, hop, htokens, hinteger, hcongr, by simpa using hbounds⟩

end Formatter
end AsmListing
