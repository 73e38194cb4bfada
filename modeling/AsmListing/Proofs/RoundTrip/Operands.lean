import Mathlib
import AsmListing.Proofs.Formatter.MemoryTokens
import AsmListing.Proofs.Reader.Operands
import AsmListing.Proofs.Reader.Phrases

/-! Registers, immediates and branches are written as phrases, and from these phrases operands are read
that differ from them only in what the text does not show. -/
namespace AsmListing
open Outcome

/-- The emission succeeds, and its text is the spelling of the phrase. -/
def Emission.Writes (e : Emission) (p : Phrase) : Prop :=
  ∃ ts, e = .ofTokens ts ∧ ts.flatMap (·.text.toList) = p.spelling

theorem Register.isOperandName (r : Register) : IsOperandName r.name := by
  have hall : ∀ r ∈ Register.all, (!Terminal.isOneOf Terminal.sizeWords r.name.toList &&
      !Terminal.isOneOf ["short"] r.name.toList) = true := by
    decide
  exact ⟨r.isAlphanum_name, by simpa using hall r (Register.mem_all r)⟩

/-- A dialect whose notation is that of the reader. -/
structure Dialect.Plain (d : Dialect) : Prop where
  memoryStyle : d.memoryStyle = .intel
  registerPrefix : d.registerPrefix = ""
  immediatePrefix : d.immediatePrefix = ""
  shortKeyword : d.shortKeyword = true
  reverseOperands : d.reverseOperands = false
  decorator : d.decorator ≠ .first

/-- The operand that is read from the text of an operand, when signs of immediates are shown or not.
An index that stands alone without a factor is read as the base. -/
def Operand.reread (signed : Bool) (op : Operand) : Operand :=
  match op.kind with
  | .immediate => { op with signed := op.signed && signed }
  | .memory =>
    let alone := op.base.isAbsent && decide (op.scale = 1)
    let index := if alone then .register .none else op.index
    { op with
      base := if alone then op.index else op.base
      index := index
      scale := if index.isAbsent then 1 else op.scale
      displacement := if Formatter.hasRegisters op then Formatter.signedDisplacement op
        else Formatter.unsignedDisplacement op
      implicit := false }
  | _ => { op with implicit := false }

namespace Formatter

/-- A formatter with the reader's own number notation. -/
def plain (d : Dialect) (signed : Bool) : Formatter :=
  ⟨d, { FormatOptions.intel with signedImmediates := signed }⟩

variable {d : Dialect} {signed : Bool}

theorem plain_valid (d : Dialect) (signed : Bool) : (plain d signed).Valid := rfl

theorem plain_tight (d : Dialect) (signed : Bool) : (plain d signed).Tight := ⟨rfl, rfl, rfl⟩

private theorem plain_legible (d : Dialect) (signed : Bool) (kind : NumberKind) :
    (NumberOptions.drawn kind (plain d signed).options).Legible :=
  ⟨rfl, rfl, rfl, .inr ⟨rfl, rfl, rfl⟩⟩

theorem plain_spells (d : Dialect) (signed : Bool) (kind : NumberKind) (bits n : Nat) :
    Numeral.Spells n ((NumberOptions.drawn kind (plain d signed).options).render bits n).toList :=
  (plain_legible d signed kind).spells bits n

/-- The numbers are hexadecimal, so none is too long to be read back. -/
theorem plain_numberValue (d : Dialect) (signed : Bool) (kind : NumberKind) (bits n : Nat) :
    numberValue ((NumberOptions.drawn kind (plain d signed).options).render bits n) = .ok (n : Int) :=
  (plain_spells d signed kind bits n).numberValue
    ((plain_legible d signed kind).not_tooLong (fun hlong => nomatch hlong.1) bits)

theorem plain_registerText (hd : d.Plain) (r : Register) : (plain d signed).registerText r = r.name := by
  have hmark : (plain d signed).registerText r = d.registerPrefix ++ r.name := rfl
  rw [hmark, hd.registerPrefix, String.empty_append]

/-- A formatter writes an operand as a phrase, from which another operand is read. -/
structure Rewrites (f : Formatter) (mnemonic : String) (size : Int) (op op' : Operand) (p : Phrase) :
    Prop where
  written : (f.realOperand op).Writes p
  spelled : p.Spelled
  meaning : ∃ draft, p.draft = .ok draft ∧ draft.Becomes mnemonic size false (some op')

variable {mnemonic : String} {size : Int}

theorem rewrites_register (hd : d.Plain) {r : Register} {n : Nat} (implicit : Bool)
    (hn : r.width? = some n) :
    ∃ p, Rewrites (plain d signed) mnemonic size
      { kind := .register, size := n, register := r, implicit }
      { kind := .register, size := n, register := r } p := by
  have hwritten := register_eq_write (plain d signed) (Register.ne_none_of_width? hn)
  rw [plain_registerText hd] at hwritten
  refine ⟨.register r.name, ⟨_, hwritten, by simp [Phrase.spelling]⟩, r.isOperandName, .register r,
    ?_, ?_⟩
  · rw [Phrase.draft, readRegister_name]
    rfl
  · exact .register (Operand.ofRegister_eq_ok.mpr ⟨r, n, rfl, hn, rfl⟩)

theorem immediate_eq_write (hd : d.Plain) {op : Operand} {text : String}
    (h : (plain d signed).immediateText op = .ok text) :
    (plain d signed).immediate op = .ofTokens [⟨.number, text⟩] := by
  have hmark : (plain d signed).dialect.immediatePrefix = "" := hd.immediatePrefix
  rw [immediate, h, Emission.ofExcept, hmark]
  rfl

/-- A sign is shown where the immediate has one and the formatter asks for it. -/
theorem immediateText_plain {value : Int} {negative : Bool} (hsize : size ∈ ([1, 2, 4, 8] : List Int))
    (hlow : 0 ≤ value) (hhigh : value < twoPower (8 * size).toNat)
    (hnegative : negative = true → twoPower (8 * size - 1).toNat ≤ value) :
    let o := NumberOptions.drawn .immediate (plain d signed).options
    (plain d signed).immediateText { kind := .immediate, size, immediate := value, signed := negative } =
      .ok (if negative && signed then
        "-" ++ o.render (8 * size).toNat (twoPower (8 * size).toNat - value).toNat
      else o.render (8 * size).toNat value.toNat) := by
  intro o
  have hshown : (plain d signed).options.signedImmediates = signed := rfl
  rw [immediateText_eq_ok (plain_valid d signed) (Operand.one_le_of_mem hsize)
    (Operand.le_eight_of_mem hsize) hlow hhigh, shownImmediate, hshown]
  cases hminus : negative && signed with
  | true =>
    obtain ⟨rfl, rfl⟩ : negative = true ∧ signed = true := by simpa using hminus
    have hneg : value - twoPower (8 * size).toNat < 0 := by omega
    simp only [hnegative rfl, and_self, if_true, hneg, neg_sub, o]
  | false =>
    have hplain : ¬(negative = true ∧ signed = true ∧ twoPower (8 * size - 1).toNat ≤ value) := by
      rintro ⟨rfl, rfl, -⟩
      cases hminus
    rw [if_neg hplain, if_neg (Int.not_lt.mpr hlow), if_neg Bool.false_ne_true]

theorem rewrites_immediate (hd : d.Plain) {value : Int} {negative : Bool}
    (hplain : isBranch mnemonic = false) (hsize : size ∈ ([1, 2, 4, 8] : List Int)) (hlow : 0 ≤ value)
    (hhigh : value < twoPower (8 * size).toNat)
    (hnegative : negative = true → twoPower (8 * size - 1).toNat ≤ value) :
    ∃ p, Rewrites (plain d signed) mnemonic size
      { kind := .immediate, size, immediate := value, signed := negative }
      { kind := .immediate, size, immediate := value, signed := negative && signed } p := by
  have hone := Operand.one_le_of_mem hsize
  have htext := @immediateText_plain d signed size value negative hsize hlow hhigh hnegative
  have hwritten := immediate_eq_write hd htext
  have hspells (n : Nat) := plain_spells d signed .immediate (8 * size).toNat n
  cases hshown : negative && signed with
  | true =>
    obtain ⟨rfl, rfl⟩ : negative = true ∧ signed = true := by simpa using hshown
    have hlarge := hnegative rfl
    have hdouble := @twoPower_eq_double (8 * size).toNat (by omega)
    rw [show (8 * size - 1).toNat = (8 * size).toNat - 1 by omega] at hlarge
    refine ⟨.number (some .minus) _, ⟨_, hwritten, by simp [Phrase.spelling, Sign.char]⟩,
      ⟨_, hspells (twoPower (8 * size).toNat - value).toNat⟩,
      .immediate (-(twoPower (8 * size).toNat - value)), ?_, ?_⟩
    · rw [Phrase.draft, plain_numberValue, Int.toNat_of_nonneg (by omega)]
      rfl
    · refine .immediate rfl hplain (Operand.ofImmediate_eq_ok.mpr ⟨hsize, ⟨by omega, by omega⟩, ?_⟩)
      rw [neg_sub, Int.sub_emod_right, Int.emod_eq_of_lt hlow hhigh, decide_eq_true (by omega)]
      rfl
  | false =>
    rw [hshown] at hwritten
    have hpos := twoPower_pos ((8 * size).toNat - 1)
    refine ⟨.number none _, ⟨_, hwritten, by simp [Phrase.spelling]⟩, ⟨_, hspells value.toNat⟩,
      .immediate value, ?_, ?_⟩
    · rw [Phrase.draft, plain_numberValue, Int.toNat_of_nonneg hlow]
      · rfl
      · simp
    · refine .immediate rfl hplain (Operand.ofImmediate_eq_ok.mpr ⟨hsize, ⟨by omega, hhigh⟩, ?_⟩)
      rw [Int.emod_eq_of_lt hlow hhigh, decide_eq_false (by omega)]
      rfl

private theorem nearBranch_plain (hd : d.Plain) {target : Int} {short : Bool} (hlow : 0 ≤ target)
    (hhigh : target < twoPower 64) :
    (plain d signed).nearBranch { kind := .nearBranch, size := 8, target, short } =
      .ofTokens ((if short then [⟨.keyword, "short"⟩, ⟨.space, " "⟩] else []) ++
        [⟨.address, (NumberOptions.drawn .branch (plain d signed).options).render 64 target.toNat⟩]) := by
  have hword : (plain d signed).dialect.shortKeyword = true := hd.shortKeyword
  rw [nearBranch_eq_append (plain_valid d signed) (by simp) (by simp) hlow hhigh, hword]
  cases short <;> rfl

theorem rewrites_branch (hd : d.Plain) {target : Int} {short : Bool}
    (hshort : isBranch mnemonic = false → short = true) (hlow : 0 ≤ target)
    (hhigh : target < twoPower 64) :
    ∃ p, Rewrites (plain d signed) mnemonic size
      { kind := .nearBranch, size := 8, target, short }
      { kind := .nearBranch, size := 8, target, short } p := by
  have hspells := plain_spells d signed .branch 64 target.toNat
  have hwritten := @nearBranch_plain d signed hd target short hlow hhigh
  have hrange : (8 : Int) ∈ ([2, 4, 8] : List Int) ∧ 0 ≤ target ∧ target < twoPower (8 * 8 : Int).toNat :=
    ⟨by simp, hlow, hhigh⟩
  cases short with
  | true =>
    refine ⟨.shortBranch _, ⟨_, hwritten, ?_⟩, ⟨_, hspells⟩, .shortBranch target, ?_, ?_⟩
    · simp [Phrase.spelling]
    · rw [Phrase.draft, plain_numberValue, Int.toNat_of_nonneg hlow]
      rfl
    · exact .shortBranch rfl (Operand.ofTarget_eq_ok.mpr ⟨hrange.1, hrange.2, rfl⟩)
  | false =>
    have hbranch : isBranch mnemonic = true := by
      by_contra hnot
      exact absurd (hshort (by simpa using hnot)) (by decide)
    refine ⟨.number none _, ⟨_, hwritten, by simp [Phrase.spelling]⟩, ⟨_, hspells⟩,
      .immediate target, ?_, ?_⟩
    · rw [Phrase.draft, plain_numberValue, Int.toNat_of_nonneg hlow]
      · rfl
      · simp
    · exact .branch rfl hbranch (Operand.ofTarget_eq_ok.mpr ⟨hrange.1, hrange.2, rfl⟩)

end Formatter
end AsmListing
