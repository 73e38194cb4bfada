import Mathlib
import AsmListing.Proofs.Formatter.Totality
import AsmListing.Proofs.Layout.Positions

/-! The layouts that formatters make: which operands they show and at which positions. An operand is found
by counting the shown ones before it, or those after it where operands are reversed. -/
namespace AsmListing

theorem Instruction.operand_eq_ok {i : Instruction} {j : Int} {op : Operand} :
    i.operand j = .ok op ↔ 0 ≤ j ∧ i.operands[j.toNat]? = some op := by
  unfold Instruction.operand
  split
  · next hneg => exact ⟨fun h => (nomatch h), fun h => absurd h.1 (by omega)⟩
  · next hneg =>
    rw [and_iff_right (by omega)]
    split <;> simp_all

namespace Formatter
variable {f : Formatter} {i : Instruction}

/-- Explicit operands are shown, and implicit ones if the dialect asks for them. -/
def shows (f : Formatter) (op : Operand) : Bool := f.dialect.showImplicit || !op.implicit

/-- The instruction has a rounding control and the dialect a place for it. -/
def Decorated (f : Formatter) (i : Instruction) : Prop :=
  i.rounding ≠ none ∧ f.dialect.decorator ≠ .unsupported

instance (f : Formatter) (i : Instruction) : Decidable (f.Decorated i) :=
  inferInstanceAs (Decidable (_ ∧ _))

/-- The slot of the rounding control at one end of the operands, if its place is there. -/
def marks (f : Formatter) (i : Instruction) (place : DecoratorPlace) : List Slot :=
  if f.dialect.decorator = place then i.rounding.toList.map fun r => .synthetic ⟨r.decorator, .none⟩
  else []

/-- The slots of the operands in writing order. -/
def orderedSlots (f : Formatter) (i : Instruction) : List Slot :=
  if f.dialect.reverseOperands then (f.operandSlots i).reverse else f.operandSlots i

theorem slots_eq_marks_append (f : Formatter) (i : Instruction) :
    f.slots i = f.marks i .first ++ f.orderedSlots i ++ f.marks i .last := by
  rw [slots, marks, marks]
  cases i.rounding with
  | none => simp [orderedSlots, operandSlots]
  | some r => cases f.dialect.decorator <;> simp [orderedSlots, operandSlots]

/-- The slots of shown operands that are numbered from `start` on. -/
private def slotsFrom (f : Formatter) (start : Nat) (ops : List Operand) : List Slot :=
  ((ops.zipIdx start).filter fun x => f.shows x.1).map fun x => .operand x.2

private theorem length_slotsFrom (f : Formatter) (start : Nat) (ops : List Operand) :
    (f.slotsFrom start ops).length = ops.countP f.shows := by
  calc (f.slotsFrom start ops).length
    _ = (ops.zipIdx start).countP (f.shows ∘ Prod.fst) := by
      rw [slotsFrom, List.length_map, List.countP_eq_length_filter]
      rfl
    _ = ops.countP f.shows := by rw [← List.countP_map, List.zipIdx_map_fst]

private theorem slotsFrom_append (f : Formatter) (start : Nat) (ops ops' : List Operand) :
    f.slotsFrom start (ops ++ ops') = f.slotsFrom start ops ++ f.slotsFrom (start + ops.length) ops' := by
  rw [slotsFrom, List.zipIdx_append, List.filter_append, List.map_append]
  rfl

theorem length_operandSlots (f : Formatter) (i : Instruction) :
    (f.operandSlots i).length = i.operands.countP f.shows :=
  f.length_slotsFrom 0 i.operands

/-- The shown operands on either side of a shown operand. -/
theorem operandSlots_eq_append {j : Nat} {op : Operand} (hop : i.operands[j]? = some op)
    (hshown : f.shows op) : ∃ before after, f.operandSlots i = before ++ .operand j :: after ∧
      before.length = (i.operands.take j).countP f.shows ∧
      after.length = (i.operands.drop (j + 1)).countP f.shows := by
  obtain ⟨hj, hget⟩ := List.getElem?_eq_some_iff.mp hop
  have hsplit : i.operands = i.operands.take j ++ op :: i.operands.drop (j + 1) := by
    rw [← hget, List.getElem_cons_drop, List.take_append_drop]
  have hlength : (i.operands.take j).length = j := List.length_take_of_le hj.le
  have hslots : f.operandSlots i = f.slotsFrom 0 i.operands := rfl
  refine ⟨f.slotsFrom 0 (i.operands.take j), f.slotsFrom (j + 1) (i.operands.drop (j + 1)), ?_,
    f.length_slotsFrom _ _, f.length_slotsFrom _ _⟩
  have hone : f.slotsFrom j [op] = [.operand j] := by simp [slotsFrom, hshown]
  calc f.operandSlots i
    _ = f.slotsFrom 0 (i.operands.take j ++ ([op] ++ i.operands.drop (j + 1))) := by
      rw [hslots, List.singleton_append, ← hsplit]
    _ = _ := by
      rw [slotsFrom_append, slotsFrom_append, hlength, Nat.zero_add, hone]
      rfl

theorem mem_operandSlots_iff {j : Int} :
    .operand j ∈ f.operandSlots i ↔ ∃ op, i.operand j = .ok op ∧ f.shows op := by
  rw [operandSlots, List.mem_map]
  constructor
  · rintro ⟨⟨op, n⟩, hmem, hj⟩
    obtain ⟨hzip, hshown⟩ := List.mem_filter.mp hmem
    cases hj
    exact ⟨op, Instruction.operand_eq_ok.mpr ⟨by simp, List.mem_zipIdx_iff_getElem?.mp hzip⟩, hshown⟩
  · rintro ⟨op, hop, hshown⟩
    obtain ⟨hj, hget⟩ := Instruction.operand_eq_ok.mp hop
    exact ⟨(op, j.toNat), List.mem_filter.mpr ⟨List.mem_zipIdx_iff_getElem?.mpr hget, hshown⟩,
      congrArg Slot.operand (Int.toNat_of_nonneg hj)⟩

theorem mem_slots_iff {j : Int} :
    .operand j ∈ f.slots i ↔ ∃ op, i.operand j = .ok op ∧ f.shows op := by
  have hmarks (place : DecoratorPlace) : .operand j ∉ f.marks i place := by
    rw [marks]
    split <;> simp
  have hordered : .operand j ∈ f.orderedSlots i ↔ .operand j ∈ f.operandSlots i := by
    rw [orderedSlots]
    split <;> simp
  rw [slots_eq_marks_append, List.mem_append, List.mem_append, or_iff_left (hmarks .last),
    or_iff_right (hmarks .first), hordered, mem_operandSlots_iff]

/-- No operand of the instruction is shown twice. -/
theorem nodup_slots (f : Formatter) (i : Instruction) :
    ((f.slots i).filterMap Slot.operand?).Nodup := by
  have hmarks (place : DecoratorPlace) : (f.marks i place).filterMap Slot.operand? = [] := by
    rw [marks]
    split
    · cases i.rounding <;> rfl
    · rfl
  have hoperands : ((f.operandSlots i).filterMap Slot.operand?).Nodup := by
    have hshown : (f.operandSlots i).filterMap Slot.operand? =
        ((i.operands.zipIdx.filter fun x => f.shows x.1).map Prod.snd).map Nat.cast := by
      rw [operandSlots, List.filterMap_map, List.map_map, ← List.filterMap_eq_map]
      rfl
    rw [hshown]
    apply List.Nodup.map Nat.cast_injective
    exact (List.filter_sublist.map Prod.snd).nodup (List.nodup_zipIdx_map_snd i.operands)
  rw [slots_eq_marks_append, List.filterMap_append, List.filterMap_append, hmarks, hmarks,
    List.nil_append, List.append_nil, orderedSlots]
  split
  · rw [List.filterMap_reverse, List.nodup_reverse]
    exact hoperands
  · exact hoperands

theorem build_slots (f : Formatter) (i : Instruction) :
    Layout.build (f.slots i) i.operands.length = .ok (f.layout i) := by
  refine Layout.build_eq_ok.mpr ⟨Layout.not_faulty_iff.mpr fun p j hslot => ⟨?_, ?_⟩, rfl⟩
  · obtain ⟨op, hop, -⟩ := mem_slots_iff.mp (List.mem_of_getElem? hslot)
    obtain ⟨hj, hget⟩ := Instruction.operand_eq_ok.mp hop
    have hlt := (List.getElem?_eq_some_iff.mp hget).1
    omega
  · exact Layout.nodup_iff.mp (f.nodup_slots i) p j hslot

/-- How many of the shown operands are written before the one with the given number. -/
def rank (f : Formatter) (i : Instruction) (j : Nat) : Nat :=
  if f.dialect.reverseOperands then (i.operands.drop (j + 1)).countP f.shows
  else (i.operands.take j).countP f.shows

theorem orderedSlots_eq_append {j : Nat} {op : Operand} (hop : i.operands[j]? = some op)
    (hshown : f.shows op) : ∃ before after, f.orderedSlots i = before ++ .operand j :: after ∧
      before.length = f.rank i j := by
  obtain ⟨before, after, hslots, hbefore, hafter⟩ := operandSlots_eq_append hop hshown
  rw [orderedSlots, rank]
  split
  · exact ⟨after.reverse, before.reverse, by simp [hslots], by rw [List.length_reverse, hafter]⟩
  · exact ⟨before, after, hslots, hbefore⟩

theorem length_marks (f : Formatter) (i : Instruction) (place : DecoratorPlace) :
    (f.marks i place).length = if i.rounding ≠ none ∧ f.dialect.decorator = place then 1 else 0 := by
  rw [marks]
  cases i.rounding <;> by_cases h : f.dialect.decorator = place <;> simp [h]

/-- The position of a shown operand. A rounding control in front moves it by one. -/
theorem renderedOperand?_of_shows {j : Nat} {op : Operand} (hop : i.operand j = .ok op)
    (hshown : f.shows op) : (f.layout i).renderedOperand? j =
      some ((f.rank i j + (f.marks i .first).length : Nat) : Int) := by
  have hop' : i.operands[j]? = some op := (Instruction.operand_eq_ok.mp hop).2
  obtain ⟨before, after, hslots, hlength⟩ := orderedSlots_eq_append hop' hshown
  have hget : (f.slots i)[f.rank i j + (f.marks i .first).length]? = some (.operand j) := by
    rw [slots_eq_marks_append, hslots, ← hlength, List.append_assoc, List.getElem?_append_right (by omega),
      Nat.add_sub_cancel]
    simp
  rw [Layout.renderedOperand?, layout, Layout.nodup_iff.mp (f.nodup_slots i) _ _ hget]
  rfl

theorem renderedOperand?_eq_none {j : Int} : (f.layout i).renderedOperand? j = none ↔
    (j < 0 ∨ i.operands.length ≤ j) ∨
      ∃ op, i.operand j = .ok op ∧ op.implicit ∧ f.dialect.showImplicit = false := by
  rw [Layout.renderedOperand?, Option.map_eq_none_iff, List.idxOf?_eq_none_iff, layout, mem_slots_iff]
  by_cases hj : j < 0 ∨ i.operands.length ≤ j
  · refine iff_of_true ?_ (.inl hj)
    rintro ⟨op, hop, -⟩
    obtain ⟨hlow, hget⟩ := Instruction.operand_eq_ok.mp hop
    have hhigh := (List.getElem?_eq_some_iff.mp hget).1
    omega
  · have hlt : j.toNat < i.operands.length := by omega
    have hop : i.operand j = .ok (i.operands.get ⟨j.toNat, hlt⟩) :=
      Instruction.operand_eq_ok.mpr ⟨by omega, List.getElem?_eq_getElem hlt⟩
    simp [hj, hop, shows, and_comm]

/-- Where the rounding control stands, if it is shown. -/
def decoratorPosition (f : Formatter) (i : Instruction) : Nat :=
  if f.dialect.decorator = .first then 0 else i.operands.countP f.shows

theorem length_orderedSlots (f : Formatter) (i : Instruction) :
    (f.orderedSlots i).length = i.operands.countP f.shows := by
  rw [orderedSlots]
  split
  · rw [List.length_reverse, length_operandSlots]
  · exact f.length_operandSlots i

theorem synthetic_notMem_orderedSlots (f : Formatter) (i : Instruction) (s : SyntheticOperand) :
    .synthetic s ∉ f.orderedSlots i := by
  have hoperands : .synthetic s ∉ f.operandSlots i := by simp [operandSlots]
  rw [orderedSlots]
  split
  · rwa [List.mem_reverse]
  · exact hoperands

/-- A synthetic slot is that of the rounding control. -/
theorem slot?_eq_synthetic {p : Int} {s : SyntheticOperand} :
    (f.layout i).slot? p = some (.synthetic s) ↔ f.Decorated i ∧ p = f.decoratorPosition i ∧
      ∃ r, i.rounding = some r ∧ s = ⟨r.decorator, .none⟩ := by
  have hoperands (n : Nat) : (f.orderedSlots i)[n]? ≠ some (.synthetic s) := fun h =>
    f.synthetic_notMem_orderedSlots i s (List.mem_of_getElem? h)
  by_cases hp : p < 0
  · simp only [Layout.slot?, hp, if_true]
    exact ⟨fun h => absurd h (by simp), fun h => absurd h.2.1 (by omega)⟩
  obtain ⟨n, rfl⟩ := Int.eq_ofNat_of_zero_le (not_lt.mp hp)
  rw [Layout.slot?, if_neg hp, Int.toNat_natCast, layout, slots_eq_marks_append, marks, marks, Decorated,
    decoratorPosition, ← length_orderedSlots, Int.natCast_inj]
  cases hr : i.rounding with
  | none => simpa using hoperands n
  | some r =>
    cases hd : f.dialect.decorator with
    | unsupported => simpa using hoperands n
    | first =>
      cases n with
      | zero => simp [eq_comm]
      | succ n => simpa using hoperands n
    | last =>
      rcases lt_trichotomy n (f.orderedSlots i).length with hlt | rfl | hgt
      · simpa [List.getElem?_append_left hlt, hlt.ne] using hoperands n
      · simp [eq_comm]
      · simp [List.getElem?_eq_none, hgt.ne', Nat.succ_le_of_lt hgt]

/-- Only a synthetic slot has an access of its own. -/
theorem access?_isSome {p : Int} :
    ((f.layout i).access? p).isSome ↔ f.Decorated i ∧ p = f.decoratorPosition i := by
  rw [Layout.access?, Option.isSome_map, Option.isSome_iff_exists]
  have hslot (s : SyntheticOperand) : (f.layout i).synthetic? p = some s ↔
      (f.layout i).slot? p = some (.synthetic s) := by
    rw [Layout.synthetic?]
    split <;> simp_all
  simp only [hslot, slot?_eq_synthetic]
  constructor
  · rintro ⟨s, hdecorated, hp, -⟩
    exact ⟨hdecorated, hp⟩
  · rintro ⟨hdecorated, hp⟩
    obtain ⟨r, hr⟩ := Option.ne_none_iff_exists'.mp hdecorated.1
    exact ⟨_, hdecorated, hp, r, hr, rfl⟩

theorem operandCount_eq (f : Formatter) (i : Instruction) :
    f.operandCount i = i.operands.countP f.shows + if f.Decorated i then 1 else 0 := by
  rw [operandCount, Layout.size, layout, slots_eq_marks_append, List.length_append, List.length_append,
    length_marks, length_marks, length_orderedSlots]
  cases hd : f.dialect.decorator <;> simp [Decorated, hd, Nat.add_comm]

/-- Reversing the operands takes the rounding control from one end to the other. -/
theorem slots_gas (o o' : FormatOptions) (i : Instruction) :
    (Formatter.mk .gas o).slots i = ((Formatter.mk .intel o').slots i).reverse := by
  rw [slots_eq_marks_append, slots_eq_marks_append]
  cases hr : i.rounding <;>
    simp [marks, hr, orderedSlots, operandSlots, Dialect.gas, Dialect.intel]

/-- The layout of an instruction can always be built. A hidden operand has no position, and a shown one
comes after the shown operands that are written before it and after a rounding control in front. Beside
the operands only the rounding control has a slot, at one end, and only that slot has an access of its
own. The layouts of the two dialects that differ in the order of operands are reverse to each other. -/
theorem layout_in_closed_form (f : Formatter) (i : Instruction) :
    (∀ o o' : FormatOptions,
      (Formatter.mk .gas o).slots i = ((Formatter.mk .intel o').slots i).reverse) ∧
    Layout.build (f.slots i) i.operands.length = .ok (f.layout i) ∧
    (∀ j : Int, (f.layout i).renderedOperand? j = none ↔ (j < 0 ∨ i.operands.length ≤ j) ∨
      ∃ op, i.operand j = .ok op ∧ op.implicit ∧ f.dialect.showImplicit = false) ∧
    (∀ (j : Nat) (op : Operand), i.operand j = .ok op → (op.implicit → f.dialect.showImplicit) →
      (f.layout i).renderedOperand? j = some (((if f.dialect.reverseOperands then
          (i.operands.drop (j + 1)).countP f.shows else (i.operands.take j).countP f.shows) +
        if i.rounding ≠ none ∧ f.dialect.decorator = .first then 1 else 0 : Nat) : Int)) ∧
    f.operandCount i = i.operands.countP f.shows + (if f.Decorated i then 1 else 0) ∧
    (∀ (p : Int) (s : SyntheticOperand), (f.layout i).slot? p = some (.synthetic s) ↔
      f.Decorated i ∧ p = f.decoratorPosition i ∧ ∃ r, i.rounding = some r ∧ s = ⟨r.decorator, .none⟩) ∧
    ∀ p : Int, ((f.layout i).access? p).isSome ↔ f.Decorated i ∧ p = f.decoratorPosition i := by
  refine ⟨fun o o' => slots_gas o o' i, f.build_slots i, fun j => renderedOperand?_eq_none,
    fun j op hop hshown => ?_, f.operandCount_eq i, fun p s => slot?_eq_synthetic, fun p => access?_isSome⟩
  rw [← length_marks]
  refine renderedOperand?_of_shows hop ?_
  cases himplicit : op.implicit <;> simp_all [shows]

/-- Of four operands the second is hidden, and the rounding control stands before the others. -/
theorem layout_in_closed_form_reversed :
    let f : Formatter := ⟨.gas, .gas⟩
    let i : Instruction := { mnemonic := "vaddps", rounding := some .up, operands := [
      { kind := .register, register := .register .xmm1 },
      { kind := .register, register := .register .xmm2, implicit := true },
      { kind := .immediate, size := 1 },
      { kind := .register, register := .register .xmm3 }] }
    f.operandCount i = 4 ∧ (f.layout i).renderedOperand? 0 = some 3 ∧
      (f.layout i).renderedOperand? 1 = none ∧ (f.layout i).renderedOperand? 4 = none ∧
      ((f.layout i).access? 0).isSome ∧ ¬((f.layout i).access? 3).isSome := by
  intro f i
  obtain ⟨-, -, hhidden, hshown, hcount, -, haccess⟩ := layout_in_closed_form f i
  refine ⟨hcount, hshown 0 _ rfl nofun, (hhidden 1).mpr (.inr ⟨_, rfl, rfl, rfl⟩),
    (hhidden 4).mpr (.inl (.inr (by decide))), (haccess 0).mpr ⟨by decide, rfl⟩, fun h => ?_⟩
  exact absurd ((haccess 3).mp h).2 (by decide)

end Formatter
end AsmListing
