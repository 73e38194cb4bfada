import Mathlib
import AsmListing.Proofs.Operand.Construction
import AsmListing.Reader.Meaning

/-! The sum in a memory operand. Summands can be added up just if no register is subtracted and there
are at most two of them, at most one with a factor. What they add up to does not depend on where the
numbers stand between the registers. -/
namespace AsmListing
open Outcome

/-- A number with the sign before it. -/
def Sign.apply : Sign → Int → Int
  | .plus, n => n
  | .minus, n => -n

namespace TermValue

def unscaled? : TermValue → Option Register
  | .register r => some r
  | _ => none

def scaled? : TermValue → Option (Register × Int)
  | .scaled r factor => some (r, factor)
  | _ => none

def register? : TermValue → Option Register
  | .register r | .scaled r _ => some r
  | .number _ => none

end TermValue

namespace Summands

/-- The registers without a factor. -/
def unscaled (xs : List (Sign × TermValue)) : List Register := xs.filterMap (·.2.unscaled?)

/-- The registers with a factor. -/
def scaled (xs : List (Sign × TermValue)) : List (Register × Int) := xs.filterMap (·.2.scaled?)

/-- What a summand adds to the displacement. -/
def offset : Sign × TermValue → Int
  | (sign, .number n) => sign.apply n
  | _ => 0

/-- The summands can be added up. -/
structure Addable (xs : List (Sign × TermValue)) : Prop where
  plus : ∀ x ∈ xs, x.2.register?.isSome → x.1 = .plus
  registers : (unscaled xs).length + (scaled xs).length ≤ 2
  factors : (scaled xs).length ≤ 1

instance (xs : List (Sign × TermValue)) : Decidable (Addable xs) :=
  decidable_of_iff ((∀ x ∈ xs, x.2.register?.isSome → x.1 = .plus) ∧
      (unscaled xs).length + (scaled xs).length ≤ 2 ∧ (scaled xs).length ≤ 1)
    ⟨fun ⟨hplus, hregisters, hfactors⟩ => ⟨hplus, hregisters, hfactors⟩,
      fun h => ⟨h.plus, h.registers, h.factors⟩⟩

/-- No register of the summands is absent. -/
def Present (xs : List (Sign × TermValue)) : Prop := ∀ x ∈ xs, ∀ r ∈ x.2.register?, r ≠ .none

/-- The place that summands add up to. The first register without a factor is the base. The one with a
factor is the index, or else the second without. -/
def total (size : Int) (segment : Register) (xs : List (Sign × TermValue)) : MemoryPlace :=
  { size, segment
    base := .register ((unscaled xs).head?.getD .none)
    index := .register (((scaled xs).head?.map Prod.fst).getD ((unscaled xs)[1]?.getD .none))
    scale := ((scaled xs).head?.map Prod.snd).getD 1
    displacement := (xs.map offset).sum }

variable {size : Int} {segment : Register} {xs : List (Sign × TermValue)} {place : MemoryPlace}

theorem Present.unscaled (h : Present xs) : ∀ r ∈ Summands.unscaled xs, r ≠ .none := by
  intro r hr
  obtain ⟨⟨sign, v⟩, hx, hv⟩ := List.mem_filterMap.mp hr
  cases v with
  | register r' =>
    cases hv
    exact h _ hx r rfl
  | scaled | number => cases hv

theorem Present.scaled (h : Present xs) : ∀ y ∈ Summands.scaled xs, y.1 ≠ .none := by
  intro y hy
  obtain ⟨⟨sign, v⟩, hx, hv⟩ := List.mem_filterMap.mp hy
  cases v with
  | scaled r k =>
    cases hv
    exact h _ hx r rfl
  | register | number => cases hv

private theorem isAbsent_base (h : Present xs) :
    (total size segment xs).base.isAbsent ↔ unscaled xs = [] := by
  have hus := h.unscaled
  rw [total, RegisterValue.isAbsent_register, decide_eq_true_iff]
  cases hlist : unscaled xs with
  | nil => simp
  | cons r rs => simpa using hus r (by simp [hlist])

private theorem isAbsent_index (h : Present xs) :
    (total size segment xs).index.isAbsent ↔ scaled xs = [] ∧ (unscaled xs).length ≤ 1 := by
  have hus := h.unscaled
  have hss := h.scaled
  rw [total, RegisterValue.isAbsent_register, decide_eq_true_iff]
  cases hscaled : scaled xs with
  | cons y ys => simpa using hss y (by simp [hscaled])
  | nil =>
    match hlist : unscaled xs with
    | [] | [r] => simp
    | r :: r' :: rs => simpa using hus r' (by simp [hlist])

private theorem Addable.append {x : Sign × TermValue} (h : Addable xs)
    (hplus : x.2.register?.isSome → x.1 = .plus)
    (hregisters : (unscaled (xs ++ [x])).length + (scaled (xs ++ [x])).length ≤ 2)
    (hfactors : (scaled (xs ++ [x])).length ≤ 1) : Addable (xs ++ [x]) := by
  refine ⟨fun y hy => ?_, hregisters, hfactors⟩
  rcases List.mem_append.mp hy with hy | hy
  · exact h.plus y hy
  · rwa [List.mem_singleton.mp hy]

private theorem add_number {n : Int} {sign : Sign} (h : Addable xs) :
    (total size segment xs).add (sign, TermValue.number n) = .ok place ↔
      Addable (xs ++ [(sign, TermValue.number n)]) ∧
        total size segment (xs ++ [(sign, TermValue.number n)]) = place := by
  have hus : unscaled (xs ++ [(sign, TermValue.number n)]) = unscaled xs := by
    simp [unscaled, TermValue.unscaled?]
  have hss : scaled (xs ++ [(sign, TermValue.number n)]) = scaled xs := by
    simp [scaled, TermValue.scaled?]
  have hnew : Addable (xs ++ [(sign, TermValue.number n)]) := by
    refine h.append (by simp [TermValue.register?]) ?_ ?_
    · rw [hus, hss]
      exact h.registers
    · rw [hss]
      exact h.factors
  rw [and_iff_right hnew]
  cases sign <;> simp [MemoryPlace.add, total, hus, hss, offset, Sign.apply, sub_eq_add_neg]

private theorem add_register {r : Register} (h : Addable xs) (hpresent : Present xs) :
    (total size segment xs).add (Sign.plus, TermValue.register r) = .ok place ↔
      Addable (xs ++ [(Sign.plus, TermValue.register r)]) ∧
        total size segment (xs ++ [(Sign.plus, TermValue.register r)]) = place := by
  have hus : unscaled (xs ++ [(Sign.plus, TermValue.register r)]) = unscaled xs ++ [r] := by
    simp [unscaled, TermValue.unscaled?]
  have hss : scaled (xs ++ [(Sign.plus, TermValue.register r)]) = scaled xs := by
    simp [scaled, TermValue.scaled?]
  have hfactors : (scaled (xs ++ [(Sign.plus, TermValue.register r)])).length ≤ 1 := by
    rw [hss]
    exact h.factors
  rw [MemoryPlace.add]
  split
  · next hbase =>
    rw [isAbsent_base hpresent] at hbase
    have hnew : Addable (xs ++ [(Sign.plus, TermValue.register r)]) := by
      refine h.append (fun _ => rfl) ?_ hfactors
      rw [hss] at hfactors
      rw [hus, hss, hbase, List.nil_append, List.length_singleton]
      omega
    rw [and_iff_right hnew]
    simp [total, hus, hss, hbase, offset]
  · next hbase =>
    rw [isAbsent_base hpresent, ← List.length_eq_zero_iff] at hbase
    -- A second register is the index, unless one with a factor came before it.
    split
    · next hindex =>
      obtain ⟨hscaled, hlength⟩ := (isAbsent_index hpresent).mp hindex
      obtain ⟨b, hb⟩ := List.length_eq_one_iff.mp (show (unscaled xs).length = 1 by omega)
      have hnew : Addable (xs ++ [(Sign.plus, TermValue.register r)]) :=
        h.append (fun _ => rfl) (by simp [hus, hss, hscaled, hb]) hfactors
      rw [and_iff_right hnew]
      simp [total, hus, hss, hscaled, hb, offset]
    · next hindex =>
      refine ⟨nofun, fun hnew => absurd ?_ hindex⟩
      have hregisters := hnew.1.registers
      rw [hus, hss, List.length_append, List.length_singleton] at hregisters
      exact (isAbsent_index hpresent).mpr ⟨List.length_eq_zero_iff.mp (by omega), by omega⟩

private theorem add_scaled {r : Register} {factor : Int} (h : Addable xs) (hpresent : Present xs) :
    (total size segment xs).add (Sign.plus, TermValue.scaled r factor) = .ok place ↔
      Addable (xs ++ [(Sign.plus, TermValue.scaled r factor)]) ∧
        total size segment (xs ++ [(Sign.plus, TermValue.scaled r factor)]) = place := by
  have hus : unscaled (xs ++ [(Sign.plus, TermValue.scaled r factor)]) = unscaled xs := by
    simp [unscaled, TermValue.unscaled?]
  have hss : scaled (xs ++ [(Sign.plus, TermValue.scaled r factor)]) = scaled xs ++ [(r, factor)] := by
    simp [scaled, TermValue.scaled?]
  rw [MemoryPlace.add]
  split
  · next hindex =>
    obtain ⟨hscaled, hlength⟩ := (isAbsent_index hpresent).mp hindex
    have hnew : Addable (xs ++ [(Sign.plus, TermValue.scaled r factor)]) := by
      refine h.append (fun _ => rfl) ?_ ?_
      · rw [hus, hss, hscaled, List.nil_append, List.length_singleton]
        omega
      · rw [hss, hscaled, List.nil_append, List.length_singleton]
    rw [and_iff_right hnew]
    simp [total, hus, hss, hscaled, offset]
  · next hindex =>
    refine ⟨nofun, fun hnew => absurd ?_ hindex⟩
    have hregisters := hnew.1.registers
    have hfactors := hnew.1.factors
    rw [hus, hss, List.length_append, List.length_singleton] at hregisters
    rw [hss, List.length_append, List.length_singleton] at hfactors
    exact (isAbsent_index hpresent).mpr ⟨List.length_eq_zero_iff.mp (by omega), by omega⟩

/-- Adding one more summand. -/
private theorem add_total {x : Sign × TermValue} (h : Addable xs) (hpresent : Present xs) :
    (total size segment xs).add x = .ok place ↔
      Addable (xs ++ [x]) ∧ total size segment (xs ++ [x]) = place := by
  obtain ⟨sign, v⟩ := x
  cases v with
  | number n => exact add_number h
  | register r =>
    cases sign with
    | plus => exact add_register h hpresent
    | minus => exact ⟨nofun, fun hnew => (nomatch hnew.1.plus _ (List.mem_concat_self) rfl)⟩
  | scaled r factor =>
    cases sign with
    | plus => exact add_scaled h hpresent
    | minus => exact ⟨nofun, fun hnew => (nomatch hnew.1.plus _ (List.mem_concat_self) rfl)⟩

private theorem Addable.of_append {ys : List (Sign × TermValue)} (h : Addable (xs ++ ys)) :
    Addable xs := by
  obtain ⟨hplus, hregisters, hfactors⟩ := h
  simp only [unscaled, scaled, List.filterMap_append, List.length_append] at hregisters hfactors
  refine ⟨fun x hx => hplus x (List.mem_append_left _ hx), ?_, ?_⟩
  · rw [unscaled, scaled]
    omega
  · rw [scaled]
    omega

/-- When summands add up, and to what. -/
theorem foldlM_add_eq_ok (hpresent : Present xs) :
    xs.foldlM MemoryPlace.add { size, segment } = .ok place ↔
      Addable xs ∧ total size segment xs = place := by
  -- What a summand does depends on those before it, so the induction adds one at the end.
  induction xs using List.reverseRecOn generalizing place with
  | nil =>
    have haddable : Addable [] := ⟨by simp, by simp [unscaled, scaled], by simp [scaled]⟩
    rw [and_iff_right haddable, List.foldlM_nil]
    exact ⟨Except.ok.inj, congrArg Except.ok⟩
  | append_singleton xs x ih =>
    have hold : Present xs := fun y hy => hpresent y (List.mem_append_left _ hy)
    rw [List.foldlM_append, bind_eq_ok]
    simp only [ih hold, List.foldlM_cons, List.foldlM_nil, bind_pure]
    constructor
    · rintro ⟨_, ⟨hxs, rfl⟩, hadd⟩
      exact (add_total hxs hold).mp hadd
    · intro h
      have hxs := h.1.of_append
      exact ⟨_, ⟨hxs, rfl⟩, (add_total hxs hold).mpr h⟩

/-- The sum is that of a memory operand. -/
structure Meaningful (xs : List (Sign × TermValue)) : Prop extends Addable xs where
  scale : ∀ y ∈ scaled xs, y.2 ∈ ([1, 2, 4, 8] : List Int)
  range : -2 ^ 63 ≤ (xs.map offset).sum ∧ (xs.map offset).sum < 2 ^ 64

instance (xs : List (Sign × TermValue)) : Decidable (Meaningful xs) :=
  decidable_of_iff (Addable xs ∧ (∀ y ∈ scaled xs, y.2 ∈ ([1, 2, 4, 8] : List Int)) ∧
      -2 ^ 63 ≤ (xs.map offset).sum ∧ (xs.map offset).sum < 2 ^ 64)
    ⟨fun ⟨h, hscale, hrange⟩ => ⟨h, hscale, hrange⟩, fun h => ⟨h.toAddable, h.scale, h.range⟩⟩

end Summands
end AsmListing
