import Mathlib
import AsmListing.Operand
import AsmListing.Proofs.Outcome

/-! Registers, and the operands that pass the checks of their constructors. -/
namespace AsmListing

theorem Register.mem_all (r : Register) : r ∈ Register.all := by
  cases r <;> decide

/-- The name of a register starts with a letter and goes on with letters and digits. -/
theorem Register.isAlphanum_name (r : Register) :
    (∀ c ∈ r.name.toList, c.isAlphanum) ∧ r.name.toList.head?.any Char.isAlpha := by
  have hall : ∀ r ∈ Register.all, (r.name.toList.all Char.isAlphanum &&
      r.name.toList.head?.any Char.isAlpha) = true := by
    decide +kernel
  simpa using hall r r.mem_all

theorem Register.ofSymbol?_eq_some {s : String} {r : Register} :
    ofSymbol? s = some r ↔ r.symbol = s := by
  have hall : ∀ r ∈ all, ofSymbol? r.symbol = some r := by
    decide +kernel
  constructor
  · intro h
    simpa using List.find?_some h
  · rintro rfl
    exact hall r r.mem_all

theorem Register.width_eq_ok {r : Register} {n : Nat} : r.width = .ok n ↔ r.width? = some n := by
  unfold Register.width
  split <;> simp_all

theorem Register.width?_mem {r : Register} {n : Nat} (h : r.width? = some n) :
    n ∈ ([1, 2, 4, 8, 16] : List Nat) := by
  have hall : ∀ r ∈ all, ∀ n ∈ r.width?, n ∈ ([1, 2, 4, 8, 16] : List Nat) := by
    decide
  exact hall r r.mem_all n h

theorem Register.ne_none_of_width? {r : Register} {n : Nat} (h : r.width? = some n) : r ≠ .none := by
  rintro rfl
  cases h

theorem RegisterValue.isAbsent_register (r : Register) :
    RegisterValue.isAbsent r = decide (r = .none) := by
  cases r <;> rfl

theorem RegisterValue.resolve_eq_ok {value : RegisterValue} {r : Register} :
    value.resolve = .ok r ↔ value.register? = some r := by
  unfold RegisterValue.resolve
  split <;> simp_all

namespace Operand
open Outcome

/-- The sizes of immediates and the scales of indices are positive. -/
theorem one_le_of_mem {n : Int} (h : n ∈ ([1, 2, 4, 8] : List Int)) : 1 ≤ n := by
  simp only [List.mem_cons, List.not_mem_nil, or_false] at h
  omega

theorem le_eight_of_mem {n : Int} (h : n ∈ ([1, 2, 4, 8] : List Int)) : n ≤ 8 := by
  simp only [List.mem_cons, List.not_mem_nil, or_false] at h
  omega

private theorem checkSize_eq_ok {allowed : List Int} {size : Int} {u : Unit} :
    checkSize allowed size = .ok u ↔ size ∈ allowed := by
  rw [checkSize, ite_eq_ok]
  simp

/-- The size of a place is checked unless it is zero. -/
private theorem checkedSize_eq_ok {size : Int} {next : Unit → Except ArgumentError Operand}
    {op : Operand} :
    (if size ≠ 0 then checkSize [1, 2, 4, 8, 16] size >>= next else next ()) = .ok op ↔
      size ∈ ([0, 1, 2, 4, 8, 16] : List Int) ∧ next () = .ok op := by
  by_cases hsize : size = 0
  · simp [hsize]
  · rw [if_pos hsize, bind_eq_ok, List.mem_cons, or_iff_right hsize]
    constructor
    · rintro ⟨u, hu, h⟩
      exact ⟨checkSize_eq_ok.mp hu, h⟩
    · rintro ⟨hmem, h⟩
      exact ⟨(), checkSize_eq_ok.mpr hmem, h⟩

theorem ofRegister_eq_ok {value : RegisterValue} {access : Access} {implicit : Bool} {op : Operand} :
    ofRegister value access implicit = .ok op ↔ ∃ r n, value.register? = some r ∧
      r.width? = some n ∧ op = { kind := .register, size := n, register := r, access, implicit } := by
  rw [ofRegister, bind_eq_ok]
  constructor
  · rintro ⟨r, hr, h⟩
    split at h
    · cases h
    · obtain ⟨n, hn, h⟩ := bind_eq_ok.mp h
      exact ⟨r, n, RegisterValue.resolve_eq_ok.mp hr, Register.width_eq_ok.mp hn,
        (Except.ok.inj h).symm⟩
  · rintro ⟨r, n, hr, hn, rfl⟩
    refine ⟨r, RegisterValue.resolve_eq_ok.mpr hr, ?_⟩
    rw [if_neg (Register.ne_none_of_width? hn), bind_eq_ok]
    exact ⟨n, Register.width_eq_ok.mpr hn, rfl⟩

/-- For a number the size is checked, and then whether the number fits. -/
private theorem numberChecked_eq_ok {allowed : List Int} {size : Int} {fits : Prop} [Decidable fits]
    {cause : ArgumentError} {made op : Operand} :
    (checkSize allowed size >>= fun _ => if fits then pure made else .error cause) = .ok op ↔
      size ∈ allowed ∧ fits ∧ op = made := by
  rw [bind_eq_ok]
  constructor
  · rintro ⟨u, hu, h⟩
    obtain ⟨hrange, h⟩ := ite_eq_ok.mp h
    exact ⟨checkSize_eq_ok.mp hu, hrange, (Except.ok.inj h).symm⟩
  · rintro ⟨hsize, hrange, rfl⟩
    exact ⟨(), checkSize_eq_ok.mpr hsize, ite_eq_ok.mpr ⟨hrange, rfl⟩⟩

theorem ofImmediate_eq_ok {value size : Int} {signed : Bool} {op : Operand} :
    ofImmediate value size signed = .ok op ↔ size ∈ [1, 2, 4, 8] ∧
      (-twoPower ((8 * size).toNat - 1) ≤ value ∧ value < twoPower (8 * size).toNat) ∧
      op = { kind := .immediate, size, immediate := value % twoPower (8 * size).toNat,
             signed := signed || decide (value < 0) } :=
  numberChecked_eq_ok

theorem ofTarget_eq_ok {target size : Int} {short : Bool} {op : Operand} :
    ofTarget target size short = .ok op ↔ size ∈ [2, 4, 8] ∧
      (0 ≤ target ∧ target < twoPower (8 * size).toNat) ∧
      op = { kind := .nearBranch, size, target, short } :=
  numberChecked_eq_ok

/-- The checks that a memory operand passes. Base and index can be any registers. -/
structure MemoryChecked (size scale displacement : Int) (segment : Register) : Prop where
  size_mem : size ∈ ([0, 1, 2, 4, 8, 16] : List Int)
  scale_mem : scale ∈ ([1, 2, 4, 8] : List Int)
  isSegment : segment = .none ∨ segment.isSegment
  range : -twoPower 63 ≤ displacement ∧ displacement < twoPower 64

theorem ofMemory_eq_ok {place : MemoryPlace} {access : Access} {implicit : Bool} {op : Operand} :
    ofMemory place access implicit = .ok op ↔ ∃ base index segment : Register,
      place.base.register? = some base ∧ place.index.register? = some index ∧
      place.segment.register? = some segment ∧
      MemoryChecked place.size place.scale place.displacement segment ∧
      op = { kind := .memory, size := place.size, base, index, scale := place.scale,
             displacement := place.displacement, segment, access, implicit } := by
  unfold ofMemory
  constructor
  · intro h
    obtain ⟨hsize, h⟩ := checkedSize_eq_ok.mp h
    obtain ⟨hscale, h⟩ := guard_eq_ok.mp h
    obtain ⟨base, hbase, h⟩ := bind_eq_ok.mp h
    obtain ⟨index, hindex, h⟩ := bind_eq_ok.mp h
    obtain ⟨segment, hsegment, h⟩ := bind_eq_ok.mp h
    obtain ⟨hkind, h⟩ := guard_eq_ok.mp h
    obtain ⟨hrange, h⟩ := ite_eq_ok.mp h
    refine ⟨base, index, segment, RegisterValue.resolve_eq_ok.mp hbase,
      RegisterValue.resolve_eq_ok.mp hindex, RegisterValue.resolve_eq_ok.mp hsegment,
      ⟨hsize, not_not.mp hscale, ?_, hrange⟩, (Except.ok.inj h).symm⟩
    by_contra hseg
    exact hkind ⟨fun hnone => hseg (.inl hnone), fun his => hseg (.inr his)⟩
  · rintro ⟨base, index, segment, hbase, hindex, hsegment, hc, rfl⟩
    refine checkedSize_eq_ok.mpr ⟨hc.size_mem, guard_eq_ok.mpr ⟨not_not.mpr hc.scale_mem, ?_⟩⟩
    refine bind_eq_ok.mpr ⟨base, RegisterValue.resolve_eq_ok.mpr hbase, ?_⟩
    refine bind_eq_ok.mpr ⟨index, RegisterValue.resolve_eq_ok.mpr hindex, ?_⟩
    refine bind_eq_ok.mpr ⟨segment, RegisterValue.resolve_eq_ok.mpr hsegment, ?_⟩
    refine guard_eq_ok.mpr ⟨?_, ite_eq_ok.mpr ⟨hc.range, rfl⟩⟩
    rintro ⟨hnone, his⟩
    exact hc.isSegment.elim hnone his

/-- The operand was returned by one of the checked constructors. -/
inductive Built (op : Operand) : Prop where
  | register {value : RegisterValue} {access : Access} {implicit : Bool}
      (h : ofRegister value access implicit = .ok op)
  | immediate {value size : Int} {signed : Bool} (h : ofImmediate value size signed = .ok op)
  | memory {place : MemoryPlace} {access : Access} {implicit : Bool}
      (h : ofMemory place access implicit = .ok op)
  | branch {target size : Int} {short : Bool} (h : ofTarget target size short = .ok op)

end Operand
end AsmListing
