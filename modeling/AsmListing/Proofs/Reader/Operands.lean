import Mathlib
import AsmListing.Proofs.Numeral.Width
import AsmListing.Proofs.Operand.Construction
import AsmListing.Reader.Program

/-! The operands that a text can stand for, and the size that their immediates have. -/
namespace AsmListing
open Outcome

namespace Operand

/-- The operand settles the size of the immediates next to it. -/
def givesSize (op : Operand) : Bool :=
  op.kind = .register || (op.kind = .memory && op.size ≠ 0)

/-- The size of the first operand that has one, at most eight bytes, and four bytes if there is
none. -/
def immediateSize (ops : List Operand) : Int :=
  ((ops.find? givesSize).map fun op => min op.size 8).getD 4

/-- Operands as the reader makes them, in an instruction with the given mnemonic whose immediates
have the given size. -/
inductive Readable (mnemonic : String) (size : Int) : Operand → Prop where
  | register {r : Register} {n : Nat} (implicit : Bool) (hn : r.width? = some n) :
      Readable mnemonic size { kind := .register, size := n, register := r, implicit }
  | immediate {value : Int} {signed : Bool} (hplain : isBranch mnemonic = false)
      (hsize : size ∈ ([1, 2, 4, 8] : List Int)) (hlow : 0 ≤ value)
      (hhigh : value < twoPower (8 * size).toNat)
      (hsigned : signed = true → twoPower (8 * size - 1).toNat ≤ value) :
      Readable mnemonic size { kind := .immediate, size, immediate := value, signed }
  | branch {target : Int} {short : Bool} (hshort : isBranch mnemonic = false → short = true)
      (hlow : 0 ≤ target) (hhigh : target < twoPower 64) :
      Readable mnemonic size { kind := .nearBranch, size := 8, target, short }
  | memory {base index segment : Register} {width scale displacement : Int} (implicit : Bool)
      (hc : MemoryChecked width scale displacement segment) :
      Readable mnemonic size
        { kind := .memory, size := width, base, index, scale, displacement, segment, implicit }

/-- What the reader makes could have been built. -/
theorem Readable.built {mnemonic : String} {size : Int} {op : Operand}
    (h : op.Readable mnemonic size) : op.Built := by
  cases h with
  | @register r n implicit hn =>
    have hof : ofRegister r .read implicit = .ok _ := ofRegister_eq_ok.mpr ⟨r, n, rfl, hn, rfl⟩
    exact .register hof
  | @immediate value signed _ hsize hlow hhigh _ =>
    have hpos := twoPower_pos ((8 * size).toNat - 1)
    have hof := @ofImmediate_eq_ok value size signed _ |>.mpr ⟨hsize, ⟨by omega, hhigh⟩, rfl⟩
    rw [Int.emod_eq_of_lt hlow hhigh, decide_eq_false (by omega), Bool.or_false] at hof
    exact .immediate hof
  | @branch target short _ hlow hhigh =>
    have hof : ofTarget target 8 short = .ok _ := ofTarget_eq_ok.mpr ⟨by simp, ⟨hlow, hhigh⟩, rfl⟩
    exact .branch hof
  | @memory base index segment width scale displacement implicit hc =>
    have hof : ofMemory { size := width, base, index, scale, displacement, segment } .read implicit =
        .ok _ := ofMemory_eq_ok.mpr ⟨base, index, segment, rfl, rfl, rfl, hc, rfl⟩
    exact .memory hof

end Operand

namespace Draft

/-- What becomes of a draft. A rounding control is no operand, and numbers cannot be implicit. -/
inductive Becomes (mnemonic : String) (size : Int) (implicit : Bool) :
    Draft → Option Operand → Prop where
  | rounding (r : Rounding) : Becomes mnemonic size implicit (.rounding r) none
  | register {r : Register} {op : Operand} (h : Operand.ofRegister r .read implicit = .ok op) :
      Becomes mnemonic size implicit (.register r) (some op)
  | memory {place : MemoryPlace} {op : Operand} (h : Operand.ofMemory place .read implicit = .ok op) :
      Becomes mnemonic size implicit (.memory place) (some op)
  | shortBranch {target : Int} {op : Operand} (hexplicit : implicit = false)
      (h : Operand.ofTarget target 8 true = .ok op) :
      Becomes mnemonic size implicit (.shortBranch target) (some op)
  | branch {target : Int} {op : Operand} (hexplicit : implicit = false)
      (hbranch : isBranch mnemonic = true) (h : Operand.ofTarget target 8 false = .ok op) :
      Becomes mnemonic size implicit (.immediate target) (some op)
  | immediate {value : Int} {op : Operand} (hexplicit : implicit = false)
      (hplain : isBranch mnemonic = false) (h : Operand.ofImmediate value size = .ok op) :
      Becomes mnemonic size implicit (.immediate value) (some op)

theorem branchOperand_eq_ok {target : Int} {short : Bool} {op : Operand} :
    branchOperand target short = .ok op ↔ Operand.ofTarget target 8 short = .ok op := by
  unfold branchOperand
  split
  · next hneg =>
    refine ⟨fun h => (nomatch h), fun h => ?_⟩
    obtain ⟨-, ⟨hlow, -⟩, -⟩ := Operand.ofTarget_eq_ok.mp h
    omega
  · exact mapError_eq_ok

theorem becomes_of_operand {mnemonic : String} {size : Int} {implicit : Bool} {d : Draft}
    {o : Option Operand} (h : d.operand mnemonic size implicit = .ok o) :
    Becomes mnemonic size implicit d o := by
  cases d with
  | rounding r =>
    cases h
    exact .rounding r
  | register r =>
    obtain ⟨op, hop, rfl⟩ := map_eq_ok.mp h
    exact .register (mapError_eq_ok.mp hop)
  | memory place =>
    obtain ⟨op, hop, rfl⟩ := map_eq_ok.mp h
    exact .memory (mapError_eq_ok.mp hop)
  | shortBranch target =>
    cases implicit with
    | true => cases h
    | false =>
      obtain ⟨op, hop, rfl⟩ := map_eq_ok.mp h
      exact .shortBranch rfl (branchOperand_eq_ok.mp hop)
  | immediate value =>
    cases implicit with
    | true => cases h
    | false =>
      rw [operand, if_neg (by decide)] at h
      cases hb : isBranch mnemonic with
      | true =>
        rw [if_pos hb] at h
        obtain ⟨op, hop, rfl⟩ := map_eq_ok.mp h
        exact .branch rfl hb (branchOperand_eq_ok.mp hop)
      | false =>
        rw [if_neg (by simp [hb])] at h
        obtain ⟨op, hop, rfl⟩ := map_eq_ok.mp h
        exact .immediate rfl hb (mapError_eq_ok.mp hop)

theorem Becomes.operand_eq {mnemonic : String} {size : Int} {implicit : Bool} {d : Draft}
    {o : Option Operand} (h : Becomes mnemonic size implicit d o) :
    d.operand mnemonic size implicit = .ok o := by
  cases h with
  | rounding r => rfl
  | register h => exact map_eq_ok.mpr ⟨_, mapError_eq_ok.mpr h, rfl⟩
  | memory h => exact map_eq_ok.mpr ⟨_, mapError_eq_ok.mpr h, rfl⟩
  | shortBranch hexplicit h =>
    rw [operand, if_neg (by simp [hexplicit])]
    exact map_eq_ok.mpr ⟨_, branchOperand_eq_ok.mpr h, rfl⟩
  | branch hexplicit hbranch h =>
    rw [operand, if_neg (by simp [hexplicit]), if_pos hbranch]
    exact map_eq_ok.mpr ⟨_, branchOperand_eq_ok.mpr h, rfl⟩
  | immediate hexplicit hplain h =>
    rw [operand, if_neg (by simp [hexplicit]), if_neg (by simp [hplain])]
    exact map_eq_ok.mpr ⟨_, mapError_eq_ok.mpr h, rfl⟩

private theorem ofImmediate_readable {mnemonic : String} {value size : Int} {op : Operand}
    (hplain : isBranch mnemonic = false) (h : Operand.ofImmediate value size = .ok op) :
    op.Readable mnemonic size := by
  obtain ⟨hsize, ⟨hlow, hhigh⟩, rfl⟩ := Operand.ofImmediate_eq_ok.mp h
  have hpos := twoPower_pos (8 * size).toNat
  have hone := Operand.one_le_of_mem hsize
  have hdouble := twoPower_eq_double (n := (8 * size).toNat) (by omega)
  refine .immediate hplain hsize (Int.emod_nonneg _ hpos.ne') (Int.emod_lt_of_pos _ hpos) ?_
  intro hsigned
  have hneg : value < 0 := by simpa using hsigned
  rw [show (8 * size - 1).toNat = (8 * size).toNat - 1 by omega,
    ← Int.add_emod_right, Int.emod_eq_of_lt (by omega) (by omega)]
  omega

theorem Becomes.readable {mnemonic : String} {size : Int} {implicit : Bool} {d : Draft}
    {op : Operand} (h : Becomes mnemonic size implicit d (some op)) : op.Readable mnemonic size := by
  cases h with
  | register h =>
    obtain ⟨r, n, -, hn, rfl⟩ := Operand.ofRegister_eq_ok.mp h
    exact .register implicit hn
  | memory h =>
    obtain ⟨base, index, segment, -, -, -, hc, rfl⟩ := Operand.ofMemory_eq_ok.mp h
    exact .memory implicit hc
  | shortBranch _ h =>
    obtain ⟨-, ⟨hlow, hhigh⟩, rfl⟩ := Operand.ofTarget_eq_ok.mp h
    exact .branch (fun _ => rfl) hlow hhigh
  | branch _ hbranch h =>
    obtain ⟨-, ⟨hlow, hhigh⟩, rfl⟩ := Operand.ofTarget_eq_ok.mp h
    exact .branch (fun hplain => absurd (hbranch.symm.trans hplain) (by decide)) hlow hhigh
  | immediate _ hplain h => exact ofImmediate_readable hplain h

/-- A draft that settles the size of immediates becomes an operand that settles it alike. -/
private theorem immediateSize_cons {mnemonic : String} {size n : Int} {implicit : Bool} {d : Draft}
    {ds : List Draft} {o : Option Operand} (h : Becomes mnemonic size implicit d o)
    (hn : immediateSize (d :: ds) = .ok n) :
    (∃ op, o = some op ∧ op.givesSize ∧ n = min op.size 8) ∨
      ((∀ op, o = some op → op.givesSize = false) ∧ immediateSize ds = .ok n) := by
  cases h with
  | rounding r => exact .inr ⟨fun op hop => (nomatch hop), hn⟩
  | register h =>
    obtain ⟨r, k, hr, hk, rfl⟩ := Operand.ofRegister_eq_ok.mp h
    cases hr
    obtain ⟨width, hwidth, rfl⟩ := map_eq_ok.mp hn
    obtain ⟨k', hk', hcast⟩ := bind_eq_ok.mp hwidth
    cases hk.symm.trans (Register.width_eq_ok.mp hk')
    cases hcast
    exact .inl ⟨_, rfl, rfl, rfl⟩
  | @memory place _ h =>
    obtain ⟨base, index, segment, -, -, -, hc, rfl⟩ := Operand.ofMemory_eq_ok.mp h
    rw [immediateSize] at hn
    split at hn
    · next hzero =>
      refine .inr ⟨fun op hop => ?_, hn⟩
      cases hop
      simp [Operand.givesSize, hzero]
    · next hzero =>
      cases hn
      exact .inl ⟨_, rfl, by simp [Operand.givesSize, hzero], rfl⟩
  | shortBranch _ h | branch _ _ h =>
    refine .inr ⟨fun op hop => ?_, hn⟩
    obtain ⟨-, -, rfl⟩ := Operand.ofTarget_eq_ok.mp h
    cases hop
    rfl
  | immediate _ _ h =>
    refine .inr ⟨fun op hop => ?_, hn⟩
    obtain ⟨-, -, rfl⟩ := Operand.ofImmediate_eq_ok.mp h
    cases hop
    rfl

/-- The operands settle the size of their immediates as their drafts do. -/
theorem immediateSize_operands {mnemonic : String} {size n : Int} {ds : List (Draft × Bool)}
    {os : List (Option Operand)}
    (h : List.Forall₂ (fun d o => Becomes mnemonic size d.2 d.1 o) ds os)
    (hn : immediateSize (ds.map Prod.fst) = .ok n) : Operand.immediateSize (os.filterMap id) = n := by
  induction h with
  | nil =>
    cases hn
    rfl
  | @cons d o ds os hd _ ih =>
    rcases immediateSize_cons hd hn with ⟨op, rfl, hop, rfl⟩ | ⟨hnot, hn⟩
    · simp [Operand.immediateSize, hop]
    · cases o with
      | none => exact ih hn
      | some op =>
        rw [← ih hn]
        simp [Operand.immediateSize, hnot op rfl]

/-- Drafts of operands settle some size, for their registers are not absent. -/
theorem exists_immediateSize {mnemonic : String} {size : Int} {ds : List (Draft × Bool)}
    {os : List (Option Operand)}
    (h : List.Forall₂ (fun d o => Becomes mnemonic size d.2 d.1 o) ds os) :
    ∃ n, immediateSize (ds.map Prod.fst) = .ok n := by
  induction h with
  | nil => exact ⟨4, rfl⟩
  | @cons d o ds os hd _ ih =>
    obtain ⟨d, implicit⟩ := d
    cases hd with
    | register h =>
      obtain ⟨r, n, hr, hn, -⟩ := Operand.ofRegister_eq_ok.mp h
      cases hr
      exact ⟨_, map_eq_ok.mpr ⟨n, bind_eq_ok.mpr ⟨n, Register.width_eq_ok.mpr hn, rfl⟩, rfl⟩⟩
    | @memory place =>
      rw [List.map_cons, immediateSize]
      split
      · exact ih
      · exact ⟨_, rfl⟩
    | rounding | shortBranch | branch | immediate => exact ih

end Draft

/-- When a sentence stands for an instruction. -/
theorem Sentence.instruction_eq_ok {s : Sentence} {i : Instruction} :
    s.instruction = .ok i ↔ ∃ (ds : List (Draft × Bool)) (size : Int) (os : List (Option Operand)),
      List.Forall₂ (fun p d => p.phrase.draft = .ok d.1 ∧ p.implicit = d.2) s.operands ds ∧
      (ds.filterMap fun d => d.1.rounding?).length ≤ 1 ∧
      Draft.immediateSize (ds.map Prod.fst) = .ok size ∧
      List.Forall₂ (fun d o => Draft.Becomes (Text.lower s.mnemonic) size d.2 d.1 o) ds os ∧
      i = { mnemonic := Text.lower s.mnemonic, operands := os.filterMap id,
            prefixes := prefixMask s.prefixes,
            rounding := (ds.filterMap fun d => d.1.rounding?).head? } := by
  have hdraft (p : OperandPhrase) (d : Draft × Bool) :
      p.phrase.draft.map (·, p.implicit) = .ok d ↔ p.phrase.draft = .ok d.1 ∧ p.implicit = d.2 := by
    rw [map_eq_ok]
    constructor
    · rintro ⟨a, ha, rfl⟩
      exact ⟨ha, rfl⟩
    · rintro ⟨ha, hd⟩
      exact ⟨d.1, ha, Prod.ext rfl hd⟩
  rw [instruction, bind_eq_ok]
  constructor
  · rintro ⟨ds, hds, h⟩
    obtain ⟨hround, h⟩ := ite_error_eq_ok.mp h
    obtain ⟨size, hsize, h⟩ := bind_eq_ok.mp h
    obtain ⟨os, hos, h⟩ := bind_eq_ok.mp h
    exact ⟨ds, size, os, (mapM_eq_ok.mp hds).imp fun p d => (hdraft p d).mp, not_lt.mp hround,
      mapError_eq_ok.mp hsize, (mapM_eq_ok.mp hos).imp fun d o => Draft.becomes_of_operand,
      (Except.ok.inj h).symm⟩
  · rintro ⟨ds, size, os, hds, hround, hsize, hos, rfl⟩
    refine ⟨ds, mapM_eq_ok.mpr (hds.imp fun p d => (hdraft p d).mpr), ?_⟩
    refine ite_error_eq_ok.mpr ⟨not_lt.mpr hround, ?_⟩
    refine bind_eq_ok.mpr ⟨size, mapError_eq_ok.mpr hsize, ?_⟩
    exact bind_eq_ok.mpr ⟨os, mapM_eq_ok.mpr (hos.imp fun d o => Draft.Becomes.operand_eq), rfl⟩

theorem Instruction.read_eq_ok {text : String} {i : Instruction} :
    Instruction.read text = .ok i ↔ ∃ s, Sentence.parse? text = some s ∧ s.instruction = .ok i := by
  unfold Instruction.read
  split
  · next hs => simp [hs]
  · next s hs => simp [hs, mapError_eq_ok]

/-- The operands of an instruction that was read. -/
theorem Sentence.readable_operands {s : Sentence} {i : Instruction} (h : s.instruction = .ok i) :
    ∀ op ∈ i.operands, op.Readable i.mnemonic (Operand.immediateSize i.operands) := by
  obtain ⟨ds, size, os, -, -, hsize, hos, rfl⟩ := instruction_eq_ok.mp h
  intro op hop
  rw [Draft.immediateSize_operands hos hsize]
  obtain ⟨o, ho, rfl⟩ : ∃ o ∈ os, o = some op := by simpa using hop
  obtain ⟨d, -, hd⟩ := exists_of_forall₂ hos ho
  exact hd.readable

end AsmListing
