import Mathlib
import AsmListing.Proofs.RoundTrip.Instructions

/-! The instructions that come back from their text unchanged. -/
namespace AsmListing

namespace Operand
variable {mnemonic : String} {size : Int} {op : Operand}

/-- The operands that the text determines, in an instruction with the given mnemonic whose immediates
have the given size. In a memory operand only an index has a factor, an index without one has a base
before it, and the displacement is signed next to registers and unsigned without them. -/
inductive Canonical (mnemonic : String) (size : Int) : Operand → Prop where
  | register {r : Register} {n : Nat} (hn : r.width? = some n) :
      Canonical mnemonic size { kind := .register, size := n, register := r }
  | immediate {value : Int} {signed : Bool} (hplain : isBranch mnemonic = false) (hlow : 0 ≤ value)
      (hhigh : value < twoPower (8 * size).toNat)
      (hsigned : signed = true → twoPower (8 * size - 1).toNat ≤ value) :
      Canonical mnemonic size { kind := .immediate, size, immediate := value, signed }
  | branch {target : Int} {short : Bool} (hshort : isBranch mnemonic = false → short = true)
      (hlow : 0 ≤ target) (hhigh : target < twoPower 64) :
      Canonical mnemonic size { kind := .nearBranch, size := 8, target, short }
  | memory {base index segment : Register} {width scale displacement : Int}
      (hc : MemoryChecked width scale displacement segment) (hfactor : index = .none → scale = 1)
      (hbase : base = .none → index ≠ .none → scale ≠ 1)
      (habsolute : base = .none → index = .none → 0 ≤ displacement)
      (hrelative : base ≠ .none ∨ index ≠ .none → displacement < twoPower 63) :
      Canonical mnemonic size
        { kind := .memory, size := width, base, index, scale, displacement, segment }

/-- Immediates have one of the sizes that they can have. -/
theorem immediateSize_mem {ops : List Operand}
    (h : ∀ op ∈ ops, ∃ s, op.Canonical mnemonic s) : immediateSize ops ∈ ([1, 2, 4, 8] : List Int) := by
  rw [immediateSize]
  cases hfind : ops.find? givesSize with
  | none => simp
  | some op =>
    obtain ⟨s, hop⟩ := h op (List.mem_of_find?_eq_some hfind)
    have hgives := List.find?_some hfind
    cases hop with
    | register hn =>
      have hmem := Register.width?_mem hn
      simp only [List.mem_cons, List.not_mem_nil, or_false] at hmem
      rcases hmem with rfl | rfl | rfl | rfl | rfl <;> simp
    | memory hc =>
      have hmem := hc.size_mem
      simp only [List.mem_cons, List.not_mem_nil, or_false] at hmem
      rcases hmem with rfl | rfl | rfl | rfl | rfl | rfl
      · simp [givesSize] at hgives
      all_goals simp
    | immediate | branch => simp [givesSize] at hgives

theorem Canonical.readable (hsize : size ∈ ([1, 2, 4, 8] : List Int))
    (h : op.Canonical mnemonic size) : op.Readable mnemonic size := by
  cases h with
  | register hn => exact .register false hn
  | immediate hplain hlow hhigh hsigned => exact .immediate hplain hsize hlow hhigh hsigned
  | branch hshort hlow hhigh => exact .branch hshort hlow hhigh
  | memory hc => exact .memory false hc

private theorem unsignedDisplacement_eq_self (hlow : 0 ≤ op.displacement)
    (hhigh : op.displacement < twoPower 64) :
    Formatter.unsignedDisplacement op = op.displacement :=
  Int.emod_eq_of_lt hlow hhigh

private theorem signedDisplacement_eq_self (hlow : -twoPower 63 ≤ op.displacement)
    (hhigh : op.displacement < twoPower 63) :
    Formatter.signedDisplacement op = op.displacement := by
  have hdouble : twoPower 64 = 2 * twoPower 63 := rfl
  have hpos := twoPower_pos 63
  have hsigned : Formatter.signedDisplacement op = if twoPower 63 ≤ Formatter.unsignedDisplacement op
    then Formatter.unsignedDisplacement op - twoPower 64 else Formatter.unsignedDisplacement op := rfl
  by_cases hneg : op.displacement < 0
  · have hunsigned : Formatter.unsignedDisplacement op = op.displacement + twoPower 64 := by
      rw [Formatter.unsignedDisplacement, ← Int.add_emod_right]
      exact Int.emod_eq_of_lt (by omega) (by omega)
    rw [hsigned, hunsigned, if_pos (by omega), add_sub_cancel_right]
  · rw [hsigned, unsignedDisplacement_eq_self (by omega) (by omega), if_neg (by omega)]

/-- A canonical operand is in normal form. -/
theorem Canonical.reread_eq (h : op.Canonical mnemonic size) : op.reread true = op := by
  cases h with
  | register | branch => rfl
  | immediate => simp [reread]
  | @memory base index segment width scale displacement hc hfactor hbase habsolute hrelative =>
    rw [Formatter.reread_memory]
    have hdisplacement (op : Operand) (hop : op.displacement = displacement) :
        (if base = .none ∧ index = .none then Formatter.unsignedDisplacement op
          else Formatter.signedDisplacement op) = displacement := by
      subst hop
      split
      · next hnone => exact unsignedDisplacement_eq_self (habsolute hnone.1 hnone.2) hc.range.2
      · next hnone =>
        have hsome : base ≠ .none ∨ index ≠ .none := not_and_or.mp hnone
        exact signedDisplacement_eq_self hc.range.1 (hrelative hsome)
    rw [hdisplacement _ rfl]
    have halone (h : base = .none ∧ scale = 1) : index = .none := by
      by_contra hi
      exact hbase h.1 hi h.2
    congr 2
    · split
      · next h => rw [halone h, h.1]
      · rfl
    · split
      · next h => exact (halone h).symm
      · rfl
    · split
      · next hi => exact (hfactor hi).symm
      · rfl

/-- An explicit operand in normal form is canonical. -/
theorem Readable.canonical (h : op.Readable mnemonic size) (hexplicit : op.implicit = false)
    (heq : op.reread true = op) : op.Canonical mnemonic size := by
  cases h with
  | register implicit hn =>
    cases hexplicit
    exact .register hn
  | immediate hplain _ hlow hhigh hsigned => exact .immediate hplain hlow hhigh hsigned
  | branch hshort hlow hhigh => exact .branch hshort hlow hhigh
  | @memory base index segment width scale displacement implicit hc =>
    cases hexplicit
    let op : Operand := { kind := .memory, size := width, base, index, scale, displacement, segment }
    have hunsigned := Formatter.unsignedDisplacement_bounds op
    have hsigned := Formatter.signedDisplacement_bounds op
    rw [Formatter.reread_memory] at heq
    have hmoved : (if base = .none ∧ scale = 1 then index else base) = base :=
      RegisterValue.register.inj (congrArg Operand.base heq)
    have hscale : (if index = .none then 1 else scale) = scale := congrArg Operand.scale heq
    have hdisplacement : (if base = .none ∧ index = .none then Formatter.unsignedDisplacement op
        else Formatter.signedDisplacement op) = displacement := congrArg Operand.displacement heq
    refine .memory hc (fun hi => ?_) (fun hb hi hs => ?_) (fun hb hi => ?_) fun hsome => ?_
    · rw [if_pos hi] at hscale
      exact hscale.symm
    · rw [if_pos ⟨hb, hs⟩] at hmoved
      exact hi (hmoved.trans hb)
    · rw [if_pos ⟨hb, hi⟩] at hdisplacement
      omega
    · rw [if_neg (not_and_or.mpr hsome)] at hdisplacement
      omega

end Operand

theorem Dialect.intel_plain : Dialect.intel.Plain := ⟨rfl, rfl, rfl, rfl, rfl, by decide⟩

/-- With signs shown on immediates, an instruction is written and read back unchanged just if its
operands are canonical. Any prefixes and any rounding control come back. -/
theorem Instruction.read_written_iff {i : Instruction} (hm : IsPlainMnemonic i.mnemonic)
    (hp : i.prefixes.Known) (hexplicit : ∀ op ∈ i.operands, op.implicit = false) :
    let f : Formatter := ⟨.intel, { FormatOptions.intel with signedImmediates := true }⟩
    (f.instruction i).failure = none ∧ Instruction.read (f.instruction i).text = .ok i ↔
      ∀ op ∈ i.operands, op.Canonical i.mnemonic (Operand.immediateSize i.operands) := by
  intro f
  have hround : ¬f.Inexpressible i := fun h => absurd h.2 (by decide)
  have hshown : ∀ op ∈ i.operands, Dialect.intel.showImplicit || !op.implicit := by
    intro op hop
    simp [hexplicit op hop]
  constructor
  · rintro ⟨-, hread⟩ op hop
    obtain ⟨s, -, hs⟩ := Instruction.read_eq_ok.mp hread
    have hreadable := Sentence.readable_operands hs
    obtain ⟨-, hagain⟩ := Formatter.read_instruction Dialect.intel_plain hm hp hround hshown hreadable
    have hsame : i.operands.map (Operand.reread true) = i.operands.map id := by
      rw [List.map_id]
      exact congrArg Instruction.operands (Except.ok.inj (hagain.symm.trans hread))
    exact (hreadable op hop).canonical (hexplicit op hop) (List.map_inj_left.mp hsame op hop)
  · intro h
    have hsize := Operand.immediateSize_mem fun op hop => ⟨_, h op hop⟩
    obtain ⟨hfailure, hread⟩ := Formatter.read_instruction Dialect.intel_plain hm hp hround hshown
      fun op hop => (h op hop).readable hsize
    have hsame : i.reread true = i := by
      have hmap : i.operands.map (Operand.reread true) = i.operands.map id :=
        List.map_congr_left fun op hop => (h op hop).reread_eq
      rw [Instruction.reread, hmap, List.map_id]
    refine ⟨hfailure, ?_⟩
    rw [hsame] at hread
    exact hread

theorem Instruction.read_written_iff_all_kinds :
    let f : Formatter := ⟨.intel, { FormatOptions.intel with signedImmediates := true }⟩
    let i : Instruction :=
      { mnemonic := "vaddps", prefixes := ⟨15⟩, rounding := some .towardZero
        operands := [
          { kind := .immediate, size := 1, immediate := 0xb1 },
          { kind := .register, size := 1, register := .register .al },
          { kind := .immediate, size := 1, immediate := 0x80, signed := true },
          { kind := .memory, size := 16, base := .register .rsp, index := .register .r13, scale := 8,
            displacement := -9223372036854775808, segment := .register .fs },
          { kind := .memory, displacement := 18446744073709551615 },
          { kind := .nearBranch, size := 8, target := 18446744073709551615, short := true }] }
    (f.instruction i).failure = none ∧ Instruction.read (f.instruction i).text = .ok i := by
  intro f i
  have hm : IsPlainMnemonic i.mnemonic := ⟨by decide, by decide, by decide⟩
  have hp : i.prefixes.Known := ⟨by decide, by decide⟩
  refine (Instruction.read_written_iff hm hp (by simp [i])).mpr ?_
  have hsize : Operand.immediateSize i.operands = 1 := rfl
  rw [hsize]
  simp only [i, List.forall_mem_cons, List.not_mem_nil, false_implies, implies_true, and_true]
  refine ⟨?_, ?_, ?_, ?_, ?_, ?_⟩
  · exact .immediate (by decide) (by decide) (by decide) (by decide)
  · exact @Operand.Canonical.register _ _ .al 1 rfl
  · exact .immediate (by decide) (by decide) (by decide) (by decide)
  · exact @Operand.Canonical.memory _ _ .rsp .r13 .fs 16 8 (-9223372036854775808)
      ⟨by simp, by simp, .inr rfl, by decide⟩ nofun nofun nofun (by decide)
  · exact @Operand.Canonical.memory _ _ .none .none .none 0 1 18446744073709551615
      ⟨by simp, by simp, .inl rfl, by decide⟩ (fun _ => rfl) (fun _ h => absurd rfl h) (by decide)
      (by simp)
  · exact .branch (fun _ => rfl) (by decide) (by decide)

end AsmListing
