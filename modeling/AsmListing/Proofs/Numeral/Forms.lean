import Mathlib
import AsmListing.Proofs.Grammar.Terminals

/-! The forms of numbers. A word that the expression for numbers matches announces one form, by how it
starts and ends, and it is read in the radix of that form. -/
namespace AsmListing
open Numeral

inductive NumberForm where
  /-- As in `0x1f`. -/
  | markedHex
  /-- As in `1fh`. -/
  | suffixedHex
  /-- As in `0b101`. -/
  | markedBinary
  /-- As in `19`. -/
  | decimal
  deriving DecidableEq, Repr, Inhabited

namespace NumberForm

def radix : NumberForm → Nat
  | .markedHex | .suffixedHex => 16
  | .markedBinary => 2
  | .decimal => 10

/-- What is left of a word of the form without its mark or suffix. -/
def digits : NumberForm → List Char → List Char
  | .markedHex, w | .markedBinary, w => w.drop 2
  | .suffixedHex, w => w.dropLast
  | .decimal, w => w

/-- The word starts with a zero and the letter, in either case. -/
def StartsWithMark (letter : Char) (w : List Char) : Prop := ['0', letter] <+: w.map Char.toLower

/-- The word ends with an `h`, in either case. -/
def EndsWithSuffix (w : List Char) : Prop := ['h'] <:+ w.map Char.toLower

/-- How the form of a word shows. The suffix wins over the mark of binary numbers, whose letter is a
hexadecimal digit. -/
def Announced : NumberForm → List Char → Prop
  | .markedHex, w => StartsWithMark 'x' w
  | .suffixedHex, w => EndsWithSuffix w
  | .markedBinary, w => StartsWithMark 'b' w ∧ ¬EndsWithSuffix w
  | .decimal, w => ¬StartsWithMark 'x' w ∧ ¬StartsWithMark 'b' w ∧ ¬EndsWithSuffix w

section Marks
variable {w : List Char}

theorem mem_of_startsWithMark {letter : Char} (h : StartsWithMark letter w) :
    letter ∈ w.map Char.toLower :=
  h.subset (by simp)

theorem mem_of_endsWithSuffix (h : EndsWithSuffix w) : 'h' ∈ w.map Char.toLower := h.subset (by simp)

theorem startsWithMark_cons {c letter : Char} (hc : c.toLower = letter) :
    StartsWithMark letter ('0' :: c :: w) :=
  ⟨w.map Char.toLower, by rw [List.map_cons, List.map_cons, hc]; rfl⟩

/-- The suffix stands behind a mark. -/
theorem mem_of_marked_endsWithSuffix {c letter : Char} (hc : c.toLower = letter) (hne : 'h' ≠ letter)
    (h : EndsWithSuffix ('0' :: c :: w)) : 'h' ∈ w.map Char.toLower := by
  have hmem := mem_of_endsWithSuffix h
  rw [List.map_cons, List.map_cons, hc] at hmem
  exact List.mem_of_ne_of_mem hne (List.mem_of_ne_of_mem (by decide) hmem)

theorem startsWithMark_unique {a b : Char} (ha : StartsWithMark a w) (hb : StartsWithMark b w) : a = b := by
  have heq : ['0', a] = ['0', b] := (List.prefix_of_prefix_length_le ha hb le_rfl).eq_of_length rfl
  simpa using heq

/-- Two forms at once show only on a word with both the mark and the suffix of hexadecimal numbers. -/
theorem existsUnique_announced (h : ¬(StartsWithMark 'x' w ∧ EndsWithSuffix w)) :
    ∃! form : NumberForm, form.Announced w := by
  have hmarks : ¬(StartsWithMark 'x' w ∧ StartsWithMark 'b' w) :=
    fun hboth => absurd (startsWithMark_unique hboth.1 hboth.2) (by decide)
  have hexists : ∃ form : NumberForm, form.Announced w := by
    by_cases hx : StartsWithMark 'x' w
    · exact ⟨.markedHex, hx⟩
    by_cases hh : EndsWithSuffix w
    · exact ⟨.suffixedHex, hh⟩
    by_cases hb : StartsWithMark 'b' w
    · exact ⟨.markedBinary, hb, hh⟩
    · exact ⟨.decimal, hx, hb, hh⟩
  obtain ⟨form, hform⟩ := hexists
  refine ⟨form, hform, fun other hother => ?_⟩
  cases form <;> cases other <;> simp only [Announced] at hform hother <;> tauto

end Marks
end NumberForm

namespace Numeral.Spells
open NumberForm
variable {n : Nat} {w : List Char}

/-- Of the words that spell numbers, those with the mark of hexadecimal numbers have no suffix. -/
theorem not_marked_and_suffixed (h : Spells n w) : ¬(StartsWithMark 'x' w ∧ EndsWithSuffix w) := by
  rintro ⟨hmark, hsuffix⟩
  have hx := mem_of_startsWithMark hmark
  cases h with
  | marked hx' _ hds _ =>
    have hh := mem_of_marked_endsWithSuffix hx' (by decide) hsuffix
    exact ((not_announcing hds hh).1 le_rfl).2 rfl
  | suffixed hh _ hds _ =>
    rw [List.map_append, List.map_singleton, hh] at hx
    rcases List.mem_append.mp hx with hx | hx
    · exact ((not_announcing hds hx).1 le_rfl).1 rfl
    · exact absurd hx (by decide)
  | binary hb _ _ _ => exact absurd (startsWithMark_unique hmark (startsWithMark_cons hb)) (by decide)
  | decimal _ hds _ => exact ((not_announcing hds hx).1 (by decide)).1 rfl

/-- A word that spells a number announces a form, and its digits in the radix of the form denote the
number. Only in decimal form it can be too long. -/
theorem exists_announced (h : Spells n w) :
    ∃ form : NumberForm, form.Announced w ∧ Denotes form.radix n (form.digits w) ∧
      (TooLong w ↔ form = .decimal ∧ Text.digitLimit < w.length) := by
  cases h with
  | @marked x ds hx hne hds hn =>
    have hshort : ¬TooLong ('0' :: x :: ds) := not_tooLong_of_letter (c := x) (by simp) (hx ▸ rfl)
    exact ⟨.markedHex, startsWithMark_cons hx, ⟨hds, hn, hne⟩, by simpa using hshort⟩
  | @suffixed h ds hh hhead hds hn =>
    have hne : ds ≠ [] := by
      rintro rfl
      cases hhead
    have hsuffix : EndsWithSuffix (ds ++ [h]) := ⟨ds.map Char.toLower, by simp [hh]⟩
    have hdigits : NumberForm.suffixedHex.digits (ds ++ [h]) = ds := List.dropLast_concat
    have hshort : ¬TooLong (ds ++ [h]) := not_tooLong_of_letter (c := h) (by simp) (hh ▸ rfl)
    exact ⟨.suffixedHex, hsuffix, hdigits.symm ▸ ⟨hds, hn, hne⟩, by simpa using hshort⟩
  | @binary b ds hb hne hds hn =>
    have hshort : ¬TooLong ('0' :: b :: ds) := not_tooLong_of_letter (c := b) (by simp) (hb ▸ rfl)
    refine ⟨.markedBinary, ⟨startsWithMark_cons hb, fun hsuffix => ?_⟩, ⟨hds, hn, hne⟩,
      by simpa using hshort⟩
    have hh := mem_of_marked_endsWithSuffix hb (by decide) hsuffix
    exact ((not_announcing hds hh).1 (by decide)).2 rfl
  | decimal hne hds hn =>
    have hdecimal : Terminal.isDecimal w :=
      isDecimal_iff.mpr ⟨hne, fun c hc => isDigit_of_isDigit (hds c hc)⟩
    refine ⟨.decimal, ⟨fun hx => ?_, fun hb => ?_, fun hh => ?_⟩, ⟨hds, hn, hne⟩,
      by simp [TooLong, hdecimal]⟩
    · exact ((not_announcing hds (mem_of_startsWithMark hx)).1 (by decide)).1 rfl
    · exact (not_announcing hds (mem_of_startsWithMark hb)).2 le_rfl rfl
    · exact ((not_announcing hds (mem_of_endsWithSuffix hh)).1 (by decide)).2 rfl

private theorem wordOf_eq (h : Spells n w) : Terminal.wordOf (w ++ []) = w :=
  Terminal.wordOf_append h.isAlphanum rfl

/-- A word for a number is a match of the expression for numbers. -/
theorem matches_number (h : Spells n w) : Terminal.number.pattern.Matches [] w [] :=
  Terminal.matches_number.mpr ⟨h.isNumber, h.wordOf_eq⟩

/-- A word for a number is taken whole. -/
theorem length?_number (h : Spells n w) : Terminal.number.length? w = some w.length := by
  have hword := h.wordOf_eq
  rw [List.append_nil] at hword
  rw [Terminal.length?, Terminal.wordLength?, hword, if_pos h.isNumber]

end Numeral.Spells

/-- A word that the expression for numbers matches as a whole announces just one form. It is read as the
number that its digits denote in the radix of that form, and only decimal digits can be too many for
that. -/
theorem readNumber_in_announced_radix {s : String}
    (h : Terminal.number.pattern.Matches [] s.toList []) :
    (∃! form : NumberForm, form.Announced s.toList) ∧
    ∀ form : NumberForm, form.Announced s.toList →
      ∃ n : Nat, Denotes form.radix n (form.digits s.toList) ∧
        readNumber s =
          if form = .decimal ∧ Text.digitLimit < s.toList.length then
            .error (.overlong s.toList.length)
          else .ok (n : Int) := by
  have hspells := spells_spelled (Terminal.matches_number.mp h).1
  have hunique := NumberForm.existsUnique_announced hspells.not_marked_and_suffixed
  obtain ⟨form, hform, hdenotes, hlong⟩ := hspells.exists_announced
  have hread := hspells.readNumber_eq
  rw [String.ofList_toList] at hread
  refine ⟨hunique, fun other hother => ?_⟩
  obtain rfl := hunique.unique hform hother
  exact ⟨_, hdenotes, hread.trans (if_congr hlong rfl rfl)⟩

/-- A word that starts like a binary number and ends with the suffix is hexadecimal. -/
theorem readNumber_in_announced_radix_both_marks :
    Terminal.number.pattern.Matches [] "0B01H".toList [] ∧
      (∃! form : NumberForm, form.Announced "0B01H".toList) ∧
      NumberForm.suffixedHex.Announced "0B01H".toList ∧ Denotes 16 0xb01 "0B01".toList ∧
      readNumber "0B01H" = .ok 0xb01 := by
  have hmatches : Terminal.number.pattern.Matches [] "0B01H".toList [] :=
    Terminal.matches_number.mpr (by decide)
  obtain ⟨hunique, hreads⟩ := readNumber_in_announced_radix hmatches
  have hsuffix : NumberForm.suffixedHex.Announced "0B01H".toList := ⟨"0b01".toList, by decide⟩
  obtain ⟨n, hdenotes, hread⟩ := hreads .suffixedHex hsuffix
  obtain rfl : n = 0xb01 := hdenotes.value_eq.symm.trans (by decide)
  exact ⟨hmatches, hunique, hsuffix, hdenotes, hread⟩

/-- The digits of one, after so many zeros that there is one digit too many to be read. -/
def overlongOne : List Char := ['1'].leftpad (Text.digitLimit + 1) '0'

theorem denotes_overlongOne : Denotes 10 1 overlongOne := by
  have hone : Denotes Radix.decimal.value 1 ['1'] := ⟨by simpa using ⟨1, by decide, rfl⟩, rfl, nofun⟩
  exact hone.leftpad _

theorem spells_overlongOne : Spells 1 overlongOne :=
  .decimal denotes_overlongOne.ne_nil denotes_overlongOne.isDigit denotes_overlongOne.value_eq

theorem length_overlongOne : overlongOne.length = Text.digitLimit + 1 := List.length_leftpad ..

theorem tooLong_overlongOne : TooLong overlongOne :=
  ⟨isDecimal_iff.mpr ⟨denotes_overlongOne.ne_nil, fun c hc =>
    isDigit_of_isDigit (denotes_overlongOne.isDigit c hc)⟩, length_overlongOne ▸ Nat.lt_succ_self _⟩

/-- Leading zeros count as digits, so that a word for one can be too long to be read. -/
theorem leading_zeros_unread :
    Terminal.number.pattern.Matches [] (String.ofList overlongOne).toList [] ∧
      NumberForm.decimal.Announced (String.ofList overlongOne).toList ∧
      Denotes 10 1 (String.ofList overlongOne).toList ∧
      readNumber (String.ofList overlongOne) = .error (.overlong 4301) := by
  obtain ⟨form, hform, -, hlong⟩ := spells_overlongOne.exists_announced
  obtain rfl := (hlong.mp tooLong_overlongOne).1
  have hread := spells_overlongOne.readNumber_eq
  rw [if_pos tooLong_overlongOne, length_overlongOne] at hread
  rw [String.toList_ofList]
  exact ⟨spells_overlongOne.matches_number, hform, denotes_overlongOne, hread⟩

end AsmListing
