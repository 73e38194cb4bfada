import Mathlib
import AsmListing.Proofs.Address.Expression
import AsmListing.Proofs.Meaning.Summands

/-! What the sum in a memory operand stands for. Its address is the value of the sum over the contents of
the registers. Adding up keeps the numbers apart from the registers, so it does not matter where they
stand. -/
namespace AsmListing
open Outcome

namespace MemoryPlace
variable {place place' : MemoryPlace}

/-- The place that lies further by as much. -/
def displaced (place : MemoryPlace) (n : Int) : MemoryPlace :=
  { place with displacement := place.displacement + n }

theorem displaced_displaced (place : MemoryPlace) (m n : Int) :
    (place.displaced m).displaced n = place.displaced (m + n) := by
  simp [displaced, add_assoc]

theorem add_number (place : MemoryPlace) (sign : Sign) (n : Int) :
    place.add (sign, .number n) = .ok (place.displaced (sign.apply n)) := by
  cases sign <;> rfl

/-- A place can be displaced before or after a summand is added. -/
theorem add_displaced (place : MemoryPlace) (n : Int) (x : Sign × TermValue) :
    (place.displaced n).add x = (place.add x).map (·.displaced n) := by
  obtain ⟨sign, v⟩ := x
  cases v with
  | number m =>
    rw [add_number, add_number, displaced_displaced, Int.add_comm, ← displaced_displaced]
    rfl
  | register r =>
    cases sign with
    | minus => rfl
    | plus =>
      by_cases hbase : place.base.isAbsent <;> by_cases hindex : place.index.isAbsent <;>
        simp [add, displaced, hbase, hindex, Except.map]
  | scaled r factor =>
    cases sign with
    | minus => rfl
    | plus =>
      by_cases hindex : place.index.isAbsent <;> simp [add, displaced, hindex, Except.map]

/-- Adding a summand changes neither the size nor the segment. -/
theorem add_frame {x : Sign × TermValue} (h : place.add x = .ok place') :
    place'.size = place.size ∧ place'.segment = place.segment := by
  unfold add at h
  split at h
  · cases h
    exact ⟨rfl, rfl⟩
  · cases h
    exact ⟨rfl, rfl⟩
  · cases h
  · cases h
  · split at h
    · cases h
      exact ⟨rfl, rfl⟩
    · obtain ⟨-, h⟩ := ite_eq_ok.mp h
      cases h
      exact ⟨rfl, rfl⟩
  · obtain ⟨-, h⟩ := ite_eq_ok.mp h
    cases h
    exact ⟨rfl, rfl⟩

end MemoryPlace

namespace Summands
variable {place place' : MemoryPlace} {xs : List (Sign × TermValue)}

theorem foldlM_frame (h : xs.foldlM MemoryPlace.add place = .ok place') :
    place'.size = place.size ∧ place'.segment = place.segment := by
  induction xs generalizing place with
  | nil =>
    cases h
    exact ⟨rfl, rfl⟩
  | cons x xs ih =>
    obtain ⟨next, hnext, h⟩ := bind_eq_ok.mp h
    obtain ⟨hsize, hsegment⟩ := MemoryPlace.add_frame hnext
    rw [← hsize, ← hsegment]
    exact ih h

theorem foldlM_displaced (place : MemoryPlace) (n : Int) (xs : List (Sign × TermValue)) :
    xs.foldlM MemoryPlace.add (place.displaced n) =
      (xs.foldlM MemoryPlace.add place).map (·.displaced n) := by
  induction xs generalizing place with
  | nil => rfl
  | cons x xs ih =>
    rw [List.foldlM_cons, List.foldlM_cons, MemoryPlace.add_displaced]
    cases place.add x with
    | error e => rfl
    | ok next => exact ih next

/-- The summands with a register, in order. -/
def registers (xs : List (Sign × TermValue)) : List (Sign × TermValue) :=
  xs.filter (·.2.register?.isSome)

/-- The registers can be added up first and the numbers after them. -/
theorem foldlM_eq_displaced (place : MemoryPlace) (xs : List (Sign × TermValue)) :
    xs.foldlM MemoryPlace.add place =
      ((registers xs).foldlM MemoryPlace.add place).map (·.displaced (xs.map offset).sum) := by
  induction xs generalizing place with
  | nil =>
    have hzero : place.displaced 0 = place := by simp [MemoryPlace.displaced]
    exact congrArg Except.ok hzero.symm
  | cons x xs ih =>
    obtain ⟨sign, v⟩ := x
    rw [List.map_cons, List.sum_cons]
    have hregister (hkeep : registers ((sign, v) :: xs) = (sign, v) :: registers xs)
        (hoffset : offset (sign, v) = 0) :
        ((sign, v) :: xs).foldlM MemoryPlace.add place =
          ((registers ((sign, v) :: xs)).foldlM MemoryPlace.add place).map
            (·.displaced (offset (sign, v) + (xs.map offset).sum)) := by
      rw [hkeep, hoffset, Int.zero_add, List.foldlM_cons, List.foldlM_cons]
      cases place.add (sign, v) with
      | error e => rfl
      | ok next => exact ih next
    cases v with
    | number n =>
      have hskip : registers ((sign, .number n) :: xs) = registers xs := rfl
      rw [hskip, List.foldlM_cons, MemoryPlace.add_number, offset]
      refine (ih _).trans ?_
      rw [foldlM_displaced]
      cases (registers xs).foldlM MemoryPlace.add place with
      | error e => rfl
      | ok sum => exact congrArg Except.ok (sum.displaced_displaced _ _)
    | register r => exact hregister rfl rfl
    | scaled r factor => exact hregister rfl rfl

/-- What a summand stands for over the contents of the registers. -/
def value (regs : Register → Int) : Sign × TermValue → Int
  | (sign, .register r) => sign.apply (regs r)
  | (sign, .scaled r factor) => sign.apply (regs r * factor)
  | (sign, .number n) => sign.apply n

/-- If no register is subtracted, the value of a sum is that of its registers and of its numbers. -/
theorem sum_value (regs : Register → Int) (hplus : ∀ x ∈ xs, x.2.register?.isSome → x.1 = .plus) :
    (xs.map (value regs)).sum = ((unscaled xs).map regs).sum +
      ((scaled xs).map fun y => regs y.1 * y.2).sum + (xs.map offset).sum := by
  induction xs with
  | nil => rfl
  | cons x xs ih =>
    obtain ⟨hx, hxs⟩ := List.forall_mem_cons.mp hplus
    obtain ⟨sign, v⟩ := x
    rw [List.map_cons, List.map_cons, List.sum_cons, List.sum_cons, ih hxs]
    cases v with
    | number n =>
      have hus : unscaled ((sign, .number n) :: xs) = unscaled xs := rfl
      have hss : scaled ((sign, .number n) :: xs) = scaled xs := rfl
      rw [hus, hss, value, offset]
      ring
    | register r =>
      obtain rfl : sign = .plus := hx rfl
      have hus : unscaled ((.plus, .register r) :: xs) = r :: unscaled xs := rfl
      have hss : scaled ((.plus, .register r) :: xs) = scaled xs := rfl
      have hoffset : offset (.plus, .register r) = 0 := rfl
      rw [hus, hss, hoffset, value, Sign.apply, List.map_cons, List.sum_cons]
      ring
    | scaled r factor =>
      obtain rfl : sign = .plus := hx rfl
      have hus : unscaled ((.plus, .scaled r factor) :: xs) = unscaled xs := rfl
      have hss : scaled ((.plus, .scaled r factor) :: xs) = (r, factor) :: scaled xs := rfl
      have hoffset : offset (.plus, .scaled r factor) = 0 := rfl
      rw [hus, hss, hoffset, value, Sign.apply, List.map_cons, List.sum_cons]
      ring

/-- The index and its scale: the register with a factor, or else the second one without. -/
def index (xs : List (Sign × TermValue)) : Register × Int :=
  match scaled xs, unscaled xs with
  | y :: _, _ => y
  | [], _ :: r :: _ => (r, 1)
  | [], _ => (.none, 1)

end Summands

/-- The memory operand is the sum of the summands. -/
structure Operand.Sums (op : Operand) (xs : List (Sign × TermValue)) : Prop where
  displacement : op.displacement = (xs.map Summands.offset).sum
  base : op.base = .register ((Summands.unscaled xs).head?.getD .none)
  index : op.index = .register (Summands.index xs).1
  scale : op.scale = (Summands.index xs).2
  address : ∀ regs, op.address regs = (xs.map (Summands.value regs)).sum

namespace Summands
variable {xs : List (Sign × TermValue)} {size : Int} {segment : Register} {op : Operand}

theorem index_total (xs : List (Sign × TermValue)) :
    (total size segment xs).index = .register (index xs).1 ∧
      (total size segment xs).scale = (index xs).2 := by
  rw [total, index]
  cases scaled xs with
  | cons y ys => exact ⟨rfl, rfl⟩
  | nil =>
    cases unscaled xs with
    | nil => exact ⟨rfl, rfl⟩
    | cons r rs => cases rs <;> exact ⟨rfl, rfl⟩

/-- Base and index are all the registers of the sum. -/
theorem sum_registers (regs : Register → Int) (h : Addable xs) (hpresent : Present xs) :
    Operand.content regs (.register ((unscaled xs).head?.getD .none)) +
        Operand.content regs (.register (index xs).1) * (index xs).2 =
      ((unscaled xs).map regs).sum + ((scaled xs).map fun y => regs y.1 * y.2).sum := by
  have hus := hpresent.unscaled
  have hss := hpresent.scaled
  have hregisters := h.registers
  have hfactors := h.factors
  rw [index]
  match hs : scaled xs, hu : unscaled xs with
  | [], [] => rfl
  | [], [r] =>
    have hr := Operand.content_register regs (hus r (by simp [hu]))
    simp [hr]
  | [], [r, r'] =>
    have hr := Operand.content_register regs (hus r (by simp [hu]))
    have hr' := Operand.content_register regs (hus r' (by simp [hu]))
    simp [hr, hr']
  | [y], [] =>
    have hy := Operand.content_register regs (hss y (by simp [hs]))
    simp [hy]
  | [y], [r] =>
    have hr := Operand.content_register regs (hus r (by simp [hu]))
    have hy := Operand.content_register regs (hss y (by simp [hs]))
    simp [hr, hy]
  | [], _ :: _ :: _ :: _ =>
    rw [hs, hu] at hregisters
    simp at hregisters
  | [_], _ :: _ :: _ =>
    rw [hs, hu] at hregisters
    simp at hregisters
  | _ :: _ :: _, _ =>
    rw [hs] at hfactors
    simp at hfactors

/-- A memory operand that is built from summands is their sum. -/
theorem sums_of_ofMemory {implicit : Bool} (h : Addable xs) (hpresent : Present xs)
    (hop : Operand.ofMemory (total size segment xs) .read implicit = .ok op) : op.Sums xs := by
  obtain ⟨hindex, hscale⟩ := @index_total size segment xs
  obtain ⟨base, index, _, hb, hi, -, -, rfl⟩ := Operand.ofMemory_eq_ok.mp hop
  cases hb
  rw [hindex] at hi
  cases hi
  refine ⟨rfl, rfl, rfl, hscale, fun regs => ?_⟩
  rw [sum_value regs h.plus, ← sum_registers regs h hpresent, ← hscale]
  rfl

end Summands
end AsmListing
