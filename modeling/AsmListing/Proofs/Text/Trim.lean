import Mathlib
import AsmListing.Text.CharClass

/-! Texts without their outer blanks. -/
namespace AsmListing.Text
variable {cs front back : List Char}

private theorem dropWhile_isBlank (h : cs.head?.all fun c => !isBlank c) : cs.dropWhile isBlank = cs := by
  cases cs with
  | nil => rfl
  | cons c cs =>
    have hc : isBlank c = false := by simpa using h
    rw [List.dropWhile_cons_of_neg (by simp [hc])]

/-- A text with no blanks at its ends is left as it is. -/
theorem trim_eq_self (hhead : cs.head?.all fun c => !isBlank c)
    (hlast : cs.getLast?.all fun c => !isBlank c) : trim cs = cs := by
  rw [trim, dropWhile_isBlank hhead, dropWhile_isBlank (by rwa [List.head?_reverse]),
    List.reverse_reverse]

theorem trim_subset (cs : List Char) : trim cs ⊆ cs := by
  intro c hc
  rw [trim, List.mem_reverse] at hc
  have hc := (List.dropWhile_sublist _).subset hc
  rw [List.mem_reverse] at hc
  exact (List.dropWhile_sublist _).subset hc

private theorem head?_dropWhile (cs : List Char) :
    (cs.dropWhile isBlank).head?.all fun c => !isBlank c := by
  have hhead := List.head?_dropWhile_not isBlank cs
  cases hdrop : cs.dropWhile isBlank with
  | nil => rfl
  | cons c rest => simpa [hdrop] using hhead

theorem trim_eq_nil : trim cs = [] ↔ cs.all isBlank := by
  rw [trim, List.reverse_eq_nil_iff, List.dropWhile_eq_nil_iff, List.all_eq_true]
  constructor
  · intro h
    apply List.dropWhile_eq_nil_iff.mp
    have hhead := head?_dropWhile cs
    cases hdrop : cs.dropWhile isBlank with
    | nil => rfl
    | cons c rest =>
      have hc := h c (by simp [hdrop])
      simp [hdrop, hc] at hhead
  · intro h
    simp [List.dropWhile_eq_nil_iff.mpr h]

/-- The text starts and ends with characters that are no blanks. -/
structure IsTrimmed (cs : List Char) : Prop where
  head : cs.head?.any fun c => !isBlank c
  last : cs.getLast?.any fun c => !isBlank c

private theorem dropWhile_append (hfront : ∀ c ∈ front, isBlank c)
    (hhead : cs.head?.any fun c => !isBlank c) : (front ++ cs).dropWhile isBlank = cs := by
  rw [List.dropWhile_append_of_pos hfront]
  apply dropWhile_isBlank
  cases cs with
  | nil => cases hhead
  | cons c cs => exact hhead

theorem IsTrimmed.append {ds : List Char} (h : IsTrimmed cs) (hds : IsTrimmed ds) (gap : List Char) :
    IsTrimmed (cs ++ (gap ++ ds)) := by
  constructor
  · have hhead := h.head
    cases cs with
    | nil => cases hhead
    | cons c cs => exact hhead
  · have hlast := hds.last
    have hne : ds ≠ [] := by
      rintro rfl
      cases hlast
    rwa [List.getLast?_append_of_ne_nil _ (by simp [hne]), List.getLast?_append_of_ne_nil _ hne]

/-- Outer blanks are dropped. -/
theorem IsTrimmed.trim_append (h : IsTrimmed cs) (hfront : ∀ c ∈ front, isBlank c)
    (hback : ∀ c ∈ back, isBlank c) : trim (front ++ (cs ++ back)) = cs := by
  have hhead : (cs ++ back).head?.any fun c => !isBlank c := by
    have hcs := h.head
    cases cs with
    | nil => cases hcs
    | cons c cs => exact hcs
  have hlast : cs.reverse.head?.any fun c => !isBlank c := by
    rw [List.head?_reverse]
    exact h.last
  rw [trim, dropWhile_append hfront hhead, List.reverse_append,
    dropWhile_append (fun c hc => hback c (List.mem_reverse.mp hc)) hlast, List.reverse_reverse]

/-- Nothing but outer blanks is dropped. -/
theorem exists_trim_append (cs : List Char) : ∃ front back, cs = front ++ (trim cs ++ back) ∧
    (∀ c ∈ front, isBlank c) ∧ ∀ c ∈ back, isBlank c := by
  let inner := cs.dropWhile isBlank
  let back := (inner.reverse.takeWhile isBlank).reverse
  have hinner : inner = trim cs ++ back := by
    rw [trim, ← List.reverse_append, List.takeWhile_append_dropWhile, List.reverse_reverse]
  refine ⟨cs.takeWhile isBlank, back, ?_, fun c hc => List.mem_takeWhile_imp hc, fun c hc => ?_⟩
  · rw [← hinner]
    exact List.takeWhile_append_dropWhile.symm
  · exact List.mem_takeWhile_imp (List.mem_reverse.mp hc)

end AsmListing.Text
