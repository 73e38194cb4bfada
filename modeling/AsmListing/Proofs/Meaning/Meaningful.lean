import Mathlib
import AsmListing.Proofs.Meaning.Conversion

/-! Which sentences stand for an instruction. -/
namespace AsmListing
open Outcome
open Numeral (spelled TooLong)

/-- The name is that of a segment register, in letters of either case. -/
def IsSegment (name : String) : Prop :=
  ∃ r ∈ Register.all, r.isSegment ∧ r.symbol = Text.upper name
  deriving Decidable

/-- An address to branch to. -/
def IsTarget (v : Int) : Prop := 0 ≤ v ∧ v < 2 ^ 64
  deriving Decidable

/-- The number fits into as many bytes, with a sign or without. -/
def FitsBytes (size v : Int) : Prop := -2 ^ ((8 * size).toNat - 1) ≤ v ∧ v < 2 ^ (8 * size).toNat
  deriving Decidable

namespace Phrase

def isNumber : Phrase → Bool
  | .number .. | .shortBranch _ => true
  | _ => false

def isDecorator : Phrase → Bool
  | .decorator _ => true
  | _ => false

/-- The size in bytes that the operand settles. -/
def size? : Phrase → Option Int
  | .register name => (registerOf name).width?.map Nat.cast
  | .memory size .. => size.map memorySize
  | _ => none

/-- The operand has a meaning after the mnemonic and with immediates of the size. -/
def Meaningful (mnemonic : String) (size : Int) : Phrase → Prop
  | .register name => IsRegister name
  | .number sign text =>
    if isBranch mnemonic then IsTarget ((sign.getD .plus).apply (spelled text.toList))
    else FitsBytes size ((sign.getD .plus).apply (spelled text.toList))
  | .shortBranch text => IsTarget (spelled text.toList)
  | .decorator _ => True
  | .memory _ segment first more =>
    (∀ name ∈ segment, IsSegment name) ∧ (∀ name ∈ termNames (summands first more), IsRegister name) ∧
      Summands.Meaningful (readings (summands first more))

instance (mnemonic : String) (size : Int) : (p : Phrase) → Decidable (p.Meaningful mnemonic size)
  | .register name => inferInstanceAs (Decidable (IsRegister name))
  | .number .. => inferInstanceAs (Decidable (ite _ _ _))
  | .shortBranch _ => inferInstanceAs (Decidable (IsTarget _))
  | .decorator _ => inferInstanceAs (Decidable True)
  | .memory .. => inferInstanceAs (Decidable (_ ∧ _ ∧ _))

variable {p : Phrase} {d : Draft} {o : Option Operand}
variable {mnemonic : String} {size : Int} {implicit : Bool}

private theorem size_mem {size segment : Option String} {first : Term} {more : List (Sign × Term)}
    (h : (Phrase.memory size segment first more).Fits) :
    size.elim 0 memorySize ∈ ([0, 1, 2, 4, 8, 16] : List Int) := by
  obtain ⟨hsize, -, -⟩ := h
  cases size with
  | none => exact List.mem_cons_self
  | some z =>
    rw [Option.elim_some]
    exact List.mem_cons_of_mem 0 (hsize z (Option.mem_some_self z))

/-- A size that is written is not zero. -/
theorem Fits.memorySize_ne_zero {z : String} {segment : Option String} {first : Term}
    {more : List (Sign × Term)} (h : (Phrase.memory (some z) segment first more).Fits) :
    memorySize z ≠ 0 := by
  have hmem : memorySize z ∈ ([1, 2, 4, 8, 16] : List Int) := h.1 z (Option.mem_some_self z)
  intro hzero
  rw [hzero] at hmem
  simp at hmem

private theorem size?_mem {n : Int} (h : p.Fits) (hn : p.size? = some n) :
    n ∈ ([1, 2, 4, 8, 16] : List Int) := by
  cases p with
  | register name =>
    obtain ⟨k, hk, rfl⟩ := Option.map_eq_some_iff.mp hn
    have hmem := Register.width?_mem hk
    simp only [List.mem_cons, List.not_mem_nil, or_false] at hmem ⊢
    omega
  | memory size segment first more =>
    obtain ⟨z, hz, rfl⟩ := Option.map_eq_some_iff.mp hn
    exact h.1 z hz
  | number | shortBranch | decorator => cases hn

end Phrase

namespace Sentence
variable {s : Sentence} {ps : List OperandPhrase} {ds : List (Draft × Bool)}

/-- The size of the immediates among operands is that of the first operand that settles one, at most
eight bytes, and four bytes if there is none. -/
def immediateSize (ps : List OperandPhrase) : Int :=
  ((ps.findSome? (·.phrase.size?)).map fun n => min n 8).getD 4

/-- The sentence stands for an instruction. -/
structure Meaningful (s : Sentence) : Prop where
  operands : ∀ p ∈ s.operands,
    p.phrase.Meaningful (Text.lower s.mnemonic) (immediateSize s.operands)
  implicit : ∀ p ∈ s.operands, p.implicit → ¬p.phrase.isNumber
  decorators : s.operands.countP (·.phrase.isDecorator) ≤ 1

instance (s : Sentence) : Decidable s.Meaningful :=
  decidable_of_iff ((∀ p ∈ s.operands,
        p.phrase.Meaningful (Text.lower s.mnemonic) (immediateSize s.operands)) ∧
      (∀ p ∈ s.operands, p.implicit → ¬p.phrase.isNumber) ∧
      s.operands.countP (·.phrase.isDecorator) ≤ 1)
    ⟨fun ⟨hoperands, himplicit, hdecorators⟩ => ⟨hoperands, himplicit, hdecorators⟩,
      fun h => ⟨h.operands, h.implicit, h.decorators⟩⟩

private theorem immediateSize_mem (h : ∀ p ∈ ps, p.phrase.Fits) :
    immediateSize ps ∈ ([1, 2, 4, 8] : List Int) := by
  rw [immediateSize]
  cases hfind : ps.findSome? (·.phrase.size?) with
  | none => simp
  | some n =>
    obtain ⟨p, hp, hn⟩ := List.exists_of_findSome?_eq_some hfind
    have hmem := Phrase.size?_mem (h p hp) hn
    simp only [Option.map_some, Option.getD_some, List.mem_cons, List.not_mem_nil, or_false] at hmem ⊢
    omega

/-- The names of registers in the sentence. -/
def names (s : Sentence) : List String := s.operands.flatMap (·.phrase.names)

end Sentence
end AsmListing
