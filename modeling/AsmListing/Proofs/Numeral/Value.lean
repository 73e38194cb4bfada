import Mathlib
import AsmListing.Numeral.Digits
import AsmListing.Numeral.Literal
import AsmListing.Proofs.Text.Ascii

/-! The positional value of digits. A literal of plain digits has their value, and the digits of a
number have that number as their value. Decimal digits are read and written up to a limit. -/
namespace AsmListing

namespace Text

/-- The numbers that are too long to be written in decimal are those from a power of ten on. -/
theorem overlong_iff {n : Nat} : Overlong n ↔ 10 ^ digitLimit ≤ n := by
  rw [Overlong, ← not_le, Nat.length_toDigits_le_iff (by decide) (by decide), not_lt]

theorem not_overlong_of_lt {n : Nat} (h : n < 2 ^ 64) : ¬Overlong n := by
  rw [overlong_iff, not_le]
  calc
    n < 2 ^ 64 := h
    _ ≤ 10 ^ 20 := by norm_num
    _ ≤ 10 ^ digitLimit := Nat.pow_le_pow_right (by decide) (by decide)

end Text

namespace Numeral

def IsDigit (radix : Nat) (c : Char) : Prop := ∃ d < radix, digitValue? c = some d

/-- The value of digits that follow digits of value `acc`. -/
def valueFrom (radix acc : Nat) (ds : List Char) : Nat :=
  ds.foldl (fun n c => radix * n + (digitValue? c).getD 0) acc

def value (radix : Nat) (ds : List Char) : Nat := valueFrom radix 0 ds

theorem IsDigit.mono {a b : Nat} {c : Char} (h : IsDigit a c) (hab : a ≤ b) : IsDigit b c := by
  obtain ⟨d, hd, hv⟩ := h
  exact ⟨d, hd.trans_le hab, hv⟩

theorem IsDigit.isAlphanum {radix : Nat} {c : Char} (h : IsDigit radix c) : c.isAlphanum := by
  obtain ⟨d, -, hv⟩ := h
  simp only [digitValue?] at hv
  simp only [Char.isAlphanum, Char.isAlpha, Bool.or_eq_true]
  split at hv
  · next hc => exact .inr hc
  · split at hv
    · next hc => exact .inl (.inr hc)
    · split at hv
      · next hc => exact .inl (.inl hc)
      · cases hv

/-- What holds of the ASCII digits of a radix holds of all its digits. -/
theorem forall_digit {radix : Nat} {P : Char → Prop}
    (h : ∀ n < 128, ∀ d < radix, digitValue? (Char.ofNat n) = some d → P (Char.ofNat n)) {c : Char}
    (hc : IsDigit radix c) : P c := by
  obtain ⟨d, hd, hv⟩ := hc
  have hascii := Text.toNat_lt_of_isAlphanum (IsDigit.isAlphanum ⟨d, hd, hv⟩)
  exact Text.forall_ascii (P := fun c => digitValue? c = some d → P c)
    (fun n hn => h n hn d hd) hascii hv

private theorem alphanum_plain {c : Char} (h : c.isAlphanum) :
    plainChar c = c ∧ isOuterBlank c = false ∧ c ≠ '-' ∧ c ≠ '+' ∧ c ≠ '_' := by
  have hall : ∀ n < 128, (Char.ofNat n).isAlphanum → plainChar (Char.ofNat n) = Char.ofNat n ∧
      isOuterBlank (Char.ofNat n) = false ∧ Char.ofNat n ≠ '-' ∧ Char.ofNat n ≠ '+' ∧
      Char.ofNat n ≠ '_' := by
    decide
  exact Text.forall_ascii (P := fun c => c.isAlphanum → plainChar c = c ∧ isOuterBlank c = false ∧
    c ≠ '-' ∧ c ≠ '+' ∧ c ≠ '_') hall (Text.toNat_lt_of_isAlphanum h) h

theorem digitRun?_digits {radix : Nat} {ds : List Char} (hds : ∀ c ∈ ds, IsDigit radix c) (acc : Nat)
    (afterDigit : Bool) (hne : afterDigit = true ∨ ds ≠ []) :
    digitRun? radix acc afterDigit ds = some (valueFrom radix acc ds) := by
  induction ds generalizing acc afterDigit with
  | nil =>
    obtain rfl : afterDigit = true := by simpa using hne
    rfl
  | cons c ds ih =>
    obtain ⟨d, hd, hv⟩ := hds c List.mem_cons_self
    -- an underscore would be taken for a gap between digits
    have hc := (alphanum_plain (hds c List.mem_cons_self).isAlphanum).2.2.2.2
    have htail := ih (fun x hx => hds x (List.mem_cons_of_mem c hx)) (radix * acc + d) true (.inl rfl)
    simp only [digitRun?, hv, if_pos hd, htail]
    simp only [valueFrom, List.foldl_cons, hv, Option.getD_some]

private theorem afterMarker?_digits {letter : Char} {ds : List Char}
    (h : ∀ c ∈ ds, c.toLower ≠ letter) : afterMarker? letter ds = none := by
  unfold afterMarker?
  split
  · next c cs => exact if_neg (h c (by simp))
  · next c cs _ => exact if_neg (h c (by simp))
  · rfl

private theorem hexDigit_ne_marker {c : Char} (h : IsDigit 16 c) :
    c.toLower ≠ 'x' ∧ c.toLower ≠ 'o' :=
  forall_digit (P := fun c => c.toLower ≠ 'x' ∧ c.toLower ≠ 'o') (by decide) h

private theorem bit_ne_marker {c : Char} (h : IsDigit 2 c) : c.toLower ≠ 'b' :=
  forall_digit (P := fun c => c.toLower ≠ 'b') (by decide) h

theorem isDigit_of_isDigit {c : Char} (h : IsDigit 10 c) : c.isDigit :=
  forall_digit (P := fun c => c.isDigit) (by decide) h

theorem decimalCount?_digits {ds : List Char} (hds : ∀ c ∈ ds, IsDigit 10 c) (count : Nat)
    (afterDigit : Bool) (hne : afterDigit = true ∨ ds ≠ []) :
    decimalCount? count afterDigit ds = some (count + ds.length) := by
  induction ds generalizing count afterDigit with
  | nil =>
    obtain rfl : afterDigit = true := by simpa using hne
    rfl
  | cons c ds ih =>
    have hdigit := hds c List.mem_cons_self
    have hc := (alphanum_plain hdigit.isAlphanum).2.2.2.2
    have htail := ih (fun x hx => hds x (List.mem_cons_of_mem c hx)) (count + 1) true (.inl rfl)
    simp only [decimalCount?, isDigit_of_isDigit hdigit, if_true, htail, List.length_cons]
    congr 1
    omega

theorem plainMagnitude_digits {radix : Nat} {ds : List Char} (hds : ∀ c ∈ ds, IsDigit radix c)
    (hne : ds ≠ []) : plainMagnitude radix ds = .ok (value radix ds) := by
  rw [plainMagnitude, digitRun?_digits hds 0 false (.inr hne)]
  rfl

/-- Decimal digits are read as their value, up to the limit on their number. -/
theorem decimalMagnitude_digits {ds : List Char} (hds : ∀ c ∈ ds, IsDigit 10 c) (hne : ds ≠ []) :
    decimalMagnitude ds =
      if Text.digitLimit < ds.length then .error (.overlong ds.length) else .ok (value 10 ds) := by
  rw [decimalMagnitude, decimalCount?_digits hds 0 false (.inr hne), Nat.zero_add, Option.filter_some,
    plainMagnitude_digits hds hne]
  by_cases hlong : Text.digitLimit < ds.length <;> simp [hlong]

theorem magnitude_digits (radix : Radix) {ds : List Char} (hds : ∀ c ∈ ds, IsDigit radix.value c)
    (hne : ds ≠ []) : magnitude radix.value ds =
      if radix = .decimal ∧ Text.digitLimit < ds.length then .error (.overlong ds.length)
      else .ok (value radix.value ds) := by
  have hplain := plainMagnitude_digits hds hne
  cases radix with
  | decimal =>
    simp only [true_and]
    exact decimalMagnitude_digits hds hne
  | hexadecimal =>
    have hmark := afterMarker?_digits fun c hc => (hexDigit_ne_marker (hds c hc)).1
    rw [if_neg (by simp), Radix.value, magnitude, hmark]
    exact hplain
  | octal =>
    have hmark := afterMarker?_digits fun c hc => (hexDigit_ne_marker ((hds c hc).mono (by decide))).2
    rw [if_neg (by simp), Radix.value, magnitude, hmark]
    exact hplain
  | binary =>
    have hmark := afterMarker?_digits fun c hc => bit_ne_marker (hds c hc)
    rw [if_neg (by simp), Radix.value, magnitude, hmark]
    exact hplain

private theorem dropWhile_eq_self {p : Char → Bool} {cs : List Char} (h : ∀ c ∈ cs, p c = false) :
    cs.dropWhile p = cs := by
  cases cs with
  | nil => rfl
  | cons c cs => rw [List.dropWhile_cons_of_neg (by simp [h c List.mem_cons_self])]

/-- Digits without sign, marker and blanks are read as their value. -/
theorem literal_digits (radix : Radix) {ds : List Char} (hds : ∀ c ∈ ds, IsDigit radix.value c)
    (hne : ds ≠ []) : literal radix.value ds =
      if radix = .decimal ∧ Text.digitLimit < ds.length then .error (.overlong ds.length)
      else .ok (value radix.value ds : Int) := by
  have hplain : ds.map plainChar = ds := by
    conv_rhs => rw [← List.map_id ds]
    exact List.map_congr_left fun c hc => (alphanum_plain (hds c hc).isAlphanum).1
  have hblank (c : Char) (hc : c ∈ ds) := (alphanum_plain (hds c hc).isAlphanum).2.1
  rw [literal, literalWith, hplain, dropWhile_eq_self hblank,
    dropWhile_eq_self (fun c hc => hblank c (List.mem_reverse.mp hc)), List.reverse_reverse]
  have hsign (c : Char) (hc : c ∈ ds) := (alphanum_plain (hds c hc).isAlphanum).2.2
  split
  · exact absurd rfl (hsign '-' (by simp)).1
  · exact absurd rfl (hsign '+' (by simp)).2.1
  · rw [magnitude_digits radix hds hne]
    split <;> rfl

theorem digitValue?_toUpper {c : Char} (h : IsDigit 16 c) : digitValue? c.toUpper = digitValue? c :=
  forall_digit (P := fun c => digitValue? c.toUpper = digitValue? c) (by decide +kernel) h

theorem digitValue?_toLower {c : Char} (h : IsDigit 16 c) : digitValue? c.toLower = digitValue? c :=
  forall_digit (P := fun c => digitValue? c.toLower = digitValue? c) (by decide) h

theorem isDigit_map {radix : Nat} {f : Char → Char} {ds : List Char}
    (hf : ∀ c ∈ ds, digitValue? (f c) = digitValue? c) (hds : ∀ c ∈ ds, IsDigit radix c) :
    ∀ c ∈ ds.map f, IsDigit radix c := by
  intro c hc
  obtain ⟨c, hmem, rfl⟩ := List.mem_map.mp hc
  obtain ⟨d, hd, hv⟩ := hds c hmem
  exact ⟨d, hd, (hf c hmem).trans hv⟩

theorem value_map {radix : Nat} {f : Char → Char} {ds : List Char}
    (hf : ∀ c ∈ ds, digitValue? (f c) = digitValue? c) : value radix (ds.map f) = value radix ds := by
  rw [value, valueFrom, List.foldl_map, value, valueFrom]
  apply List.foldl_ext
  intro n c hc
  rw [hf c hc]

theorem value_leftpad (radix width : Nat) (ds : List Char) :
    value radix (ds.leftpad width '0') = value radix ds := by
  have hzero (k : Nat) : valueFrom radix 0 (List.replicate k '0') = 0 := by
    induction k with
    | zero => rfl
    | succ k ih =>
      rw [List.replicate_succ, valueFrom, List.foldl_cons]
      exact ih
  rw [List.leftpad, value, valueFrom, List.foldl_append]
  exact congrArg (fun n => valueFrom radix n ds) (hzero _)

theorem digitValue?_digitChar : ∀ d < 16, digitValue? (Nat.digitChar d) = some d := by decide

private theorem isDigit_digitChar {radix d : Nat} (hr : radix ≤ 16) (hd : d < radix) :
    IsDigit radix (Nat.digitChar d) :=
  ⟨d, hd, digitValue?_digitChar d (hd.trans_le hr)⟩

/-- The digits of a number in a radix up to sixteen have the number as their value. -/
theorem toDigits_spec {radix : Nat} (hone : 1 < radix) (hr : radix ≤ 16) (n : Nat) :
    (∀ c ∈ Nat.toDigits radix n, IsDigit radix c) ∧ value radix (Nat.toDigits radix n) = n := by
  induction n using Nat.strong_induction_on with
  | _ n ih =>
    rw [Nat.toDigits_eq_if hone]
    split
    · next hn =>
      refine ⟨fun c hc => ?_, ?_⟩
      · rw [List.mem_singleton.mp hc]
        exact isDigit_digitChar hr hn
      · simp [value, valueFrom, digitValue?_digitChar n (hn.trans_le hr)]
    · next hn =>
      have hmod : n % radix < radix := Nat.mod_lt n (by omega)
      obtain ⟨hds, hv⟩ := ih (n / radix) (Nat.div_lt_self (by omega) hone)
      refine ⟨fun c hc => ?_, ?_⟩
      · rcases List.mem_append.mp hc with hc | hc
        · exact hds c hc
        · rw [List.mem_singleton.mp hc]
          exact isDigit_digitChar hr hmod
      · rw [value, valueFrom] at hv
        rw [value, valueFrom, List.foldl_append, hv, List.foldl_cons, List.foldl_nil,
          digitValue?_digitChar _ (hmod.trans_le hr), Option.getD_some]
        exact Nat.div_add_mod n radix

private theorem radix_bounds (radix : Radix) : 1 < radix.value ∧ radix.value ≤ 16 := by
  cases radix <;> decide

/-- Digits of a radix, one or more, that have the number as their value. -/
structure Denotes (radix n : Nat) (ds : List Char) : Prop where
  isDigit : ∀ c ∈ ds, IsDigit radix c
  value_eq : value radix ds = n
  ne_nil : ds ≠ []

theorem Denotes.head_isAlphanum {radix n : Nat} {ds : List Char} (h : Denotes radix n ds) :
    ds.head?.any Char.isAlphanum := by
  obtain ⟨d, ds, rfl⟩ := List.exists_cons_of_ne_nil h.ne_nil
  exact (h.isDigit d List.mem_cons_self).isAlphanum

theorem isDigit_zero (radix : Radix) : IsDigit radix.value '0' :=
  ⟨0, by cases radix <;> decide, rfl⟩

theorem Denotes.leftpad {radix : Radix} {n : Nat} {ds : List Char} (h : Denotes radix.value n ds)
    (width : Nat) : Denotes radix.value n (ds.leftpad width '0') := by
  refine ⟨fun c hc => ?_, (value_leftpad _ _ _).trans h.value_eq, by simp [List.leftpad, h.ne_nil]⟩
  rcases List.mem_append.mp hc with hc | hc
  · rw [List.eq_of_mem_replicate hc]
    exact isDigit_zero radix
  · exact h.isDigit c hc

theorem Denotes.cons_zero {radix : Radix} {n : Nat} {ds : List Char} (h : Denotes radix.value n ds) :
    Denotes radix.value n ('0' :: ds) := by
  have hpad : ds.leftpad (ds.length + 1) '0' = '0' :: ds := by simp [List.leftpad]
  exact hpad ▸ h.leftpad (ds.length + 1)

theorem denotes_digits (radix : Radix) (upperCase : Bool) (n : Nat) :
    Denotes radix.value n (digits radix upperCase n) := by
  obtain ⟨hone, hr⟩ := radix_bounds radix
  obtain ⟨hds, hv⟩ := toDigits_spec hone hr n
  rw [digits]
  cases upperCase with
  | false => exact ⟨hds, hv, Nat.toDigits_ne_nil⟩
  | true =>
    have hup : ∀ c ∈ Nat.toDigits radix.value n, digitValue? c.toUpper = digitValue? c :=
      fun c hc => digitValue?_toUpper ((hds c hc).mono hr)
    refine ⟨isDigit_map hup hds, (value_map hup).trans hv, ?_⟩
    simp [Nat.toDigits_ne_nil]

end Numeral
end AsmListing
