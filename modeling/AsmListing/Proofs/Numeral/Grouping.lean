import Mathlib
import AsmListing.Numeral.Digits

/-! Groups of digits. They are counted from the right, so that only the first group can be short, and
there is one way to cut digits like this. -/
namespace AsmListing.Numeral

/-- The digits are cut into a first group, which may be short but is not empty, and full ones. -/
structure CutFromRight (size : Nat) (ds first : List Char) (rest : List (List Char)) : Prop where
  flatten_eq : (first :: rest).flatten = ds
  first_pos : 1 ≤ first.length
  first_le : first.length ≤ size
  rest_full : ∀ g ∈ rest, g.length = size

theorem grouped_of_ungrouped {separator : List Char} {size : Nat} (h : separator = [] ∨ size = 0)
    (ds : List Char) : grouped separator size ds = ds :=
  if_pos (h.imp_left List.isEmpty_iff.mpr)

theorem grouped_eq_intercalate {separator : List Char} {size : Nat} (hne : separator ≠ [])
    (hsize : 1 ≤ size) (ds : List Char) :
    grouped separator size ds = separator.intercalate (groups size ds) := by
  apply if_neg
  rintro (hempty | hzero)
  · exact hne (List.isEmpty_iff.mp hempty)
  · omega

section Groups
variable {size : Nat} {d : Char} {ds first : List Char} {rest : List (List Char)}

/-- A digit in front of digits that are cut goes into their first group. -/
theorem groups_cons_of_lt (h : groups size ds = first :: rest) (hlt : first.length < size) :
    groups size (d :: ds) = (d :: first) :: rest := by
  simp only [groups, h, if_pos hlt]

/-- If the first group is full, the digit starts another one. -/
theorem groups_cons_of_full (h : groups size ds = first :: rest) (hfull : first.length = size) :
    groups size (d :: ds) = [d] :: first :: rest := by
  simp only [groups, h, if_neg hfull.not_lt]

namespace CutFromRight

theorem singleton (hsize : 1 ≤ size) (d : Char) : CutFromRight size [d] [d] [] :=
  ⟨rfl, le_rfl, hsize, by simp⟩

theorem cons_of_lt (h : CutFromRight size ds first rest) (hlt : first.length < size) (d : Char) :
    CutFromRight size (d :: ds) (d :: first) rest where
  flatten_eq := congrArg (d :: ·) h.flatten_eq
  first_pos := Nat.succ_pos _
  first_le := hlt
  rest_full := h.rest_full

theorem cons_of_full (h : CutFromRight size ds first rest) (hfull : first.length = size) (d : Char) :
    CutFromRight size (d :: ds) [d] (first :: rest) where
  flatten_eq := congrArg (d :: ·) h.flatten_eq
  first_pos := le_rfl
  first_le := h.first_pos.trans h.first_le
  rest_full := List.forall_mem_cons.mpr ⟨hfull, h.rest_full⟩

/-- All groups but the first are full, so their number is the number of digits divided by the size and
rounded up. -/
theorem length_eq (h : CutFromRight size ds first rest) :
    (first :: rest).length = ds.length ⌈/⌉ size := by
  have hrest : rest.flatten.length = size * rest.length := by
    rw [List.length_flatten, List.map_congr_left h.rest_full, List.map_const', List.sum_replicate,
      smul_eq_mul, Nat.mul_comm]
  have hlength : ds.length = size * rest.length + first.length := by
    rw [← h.flatten_eq, List.flatten_cons, List.length_append, hrest, Nat.add_comm]
  have hpos := h.first_pos
  have hle := h.first_le
  rw [Nat.ceilDiv_eq_add_pred_div, hlength, List.length_cons]
  symm
  apply Nat.div_eq_of_lt_le
  · rw [Nat.succ_mul, Nat.mul_comm rest.length]
    omega
  · rw [Nat.succ_mul, Nat.succ_mul, Nat.mul_comm rest.length]
    omega

/-- Digits that are cut like this are cut as grouping cuts them. The first digit either stands in a group
of its own, before full groups, or leaves a first group that has room for it. -/
theorem groups_eq (h : CutFromRight size ds first rest) : groups size ds = first :: rest := by
  induction ds generalizing first rest with
  | nil =>
    obtain ⟨rfl, -⟩ := List.append_eq_nil_iff.mp h.flatten_eq
    exact absurd h.first_pos (by decide)
  | cons d ds ih =>
    obtain ⟨e, first, rfl⟩ := List.exists_cons_of_length_pos h.first_pos
    obtain ⟨rfl, hflatten⟩ := List.cons.inj h.flatten_eq
    have hroom : first.length < size := h.first_le
    by_cases hfirst : first = []
    · subst hfirst
      cases rest with
      | nil =>
        obtain rfl : ds = [] := hflatten.symm
        rfl
      | cons g gs =>
        obtain ⟨hfull, hgs⟩ := List.forall_mem_cons.mp h.rest_full
        have hcut : CutFromRight size ds g gs := ⟨hflatten, hfull ▸ hroom, hfull.le, hgs⟩
        exact groups_cons_of_full (ih hcut) hfull
    · have hpos := List.length_pos_iff.mpr hfirst
      exact groups_cons_of_lt (ih ⟨hflatten, hpos, hroom.le, h.rest_full⟩) hroom

end CutFromRight

/-- Grouping cuts digits from the right, for one digit more keeps the cut. -/
theorem exists_cutFromRight (hsize : 1 ≤ size) (hne : ds ≠ []) :
    ∃ first rest, groups size ds = first :: rest ∧ CutFromRight size ds first rest := by
  induction ds with
  | nil => exact absurd rfl hne
  | cons d ds ih =>
    by_cases hds : ds = []
    · subst hds
      exact ⟨[d], [], rfl, .singleton hsize d⟩
    · obtain ⟨first, rest, hgroups, hcut⟩ := ih hds
      rcases hcut.first_le.lt_or_eq with hlt | hfull
      · exact ⟨_, _, groups_cons_of_lt hgroups hlt, hcut.cons_of_lt hlt d⟩
      · exact ⟨_, _, groups_cons_of_full hgroups hfull, hcut.cons_of_full hfull d⟩

end Groups

/-- Grouped digits are groups, cut from the right, with the separator between them. Their number is that
of the digits divided by the size of a group and rounded up, and no other groups are cut like this.
Without a separator or a size the digits remain as they are. -/
theorem grouped_joins_cut (separator : List Char) (size : Nat) (ds : List Char) :
    (separator = [] ∨ size = 0 → grouped separator size ds = ds) ∧
    (separator ≠ [] → 1 ≤ size → ds ≠ [] → ∃ first rest,
      grouped separator size ds = separator.intercalate (first :: rest) ∧
      CutFromRight size ds first rest ∧ (first :: rest).length = ds.length ⌈/⌉ size ∧
      ∀ first' rest', CutFromRight size ds first' rest' → first' :: rest' = first :: rest) := by
  refine ⟨fun h => grouped_of_ungrouped h ds, fun hseparator hsize hne => ?_⟩
  obtain ⟨first, rest, hgroups, hcut⟩ := exists_cutFromRight hsize hne
  refine ⟨first, rest, ?_, hcut, hcut.length_eq, fun first' rest' hcut' => ?_⟩
  · rw [grouped_eq_intercalate hseparator hsize, hgroups]
  · rw [← hcut'.groups_eq, hgroups]

/-- Six digits are two full groups of three, and a seventh stands in a group of its own. -/
theorem grouped_joins_cut_full :
    (∃ first rest, grouped ['_'] 3 "123456".toList = ['_'].intercalate (first :: rest) ∧
      CutFromRight 3 "123456".toList first rest ∧ (first :: rest).length = 2) ∧
    (∃ first rest, grouped ['_', ' '] 3 "1234567".toList = ['_', ' '].intercalate (first :: rest) ∧
      CutFromRight 3 "1234567".toList first rest ∧ (first :: rest).length = 3) ∧
    grouped ['_'] 3 "123456".toList = "123_456".toList ∧
    grouped ['_', ' '] 3 "1234567".toList = "1_ 234_ 567".toList ∧
    grouped ['_'] 0 "123456".toList = "123456".toList := by
  obtain ⟨first, rest, htwo, hcut, hcount, -⟩ :=
    (grouped_joins_cut ['_'] 3 "123456".toList).2 (by decide) (by decide) (by decide)
  obtain ⟨first', rest', hthree, hcut', hcount', -⟩ :=
    (grouped_joins_cut ['_', ' '] 3 "1234567".toList).2 (by decide) (by decide) (by decide)
  exact ⟨⟨first, rest, htwo, hcut, hcount⟩, ⟨first', rest', hthree, hcut', hcount'⟩, by decide, by decide,
    (grouped_joins_cut ['_'] 0 _).1 (.inr rfl)⟩

end AsmListing.Numeral
