import Mathlib
import AsmListing.Proofs.Numeral.Separation
import AsmListing.Proofs.Operand.Construction
import AsmListing.Reader.Meaning

/-! The words that spell registers and numbers. A register is read from its name. A word for a number
is a number of the reader with the value that it spells, and the numbers that formatters write in the
presets are such words. -/
namespace AsmListing

theorem readRegister_eq_ok {name : String} {r : Register} :
    readRegister name = .ok r ↔ r.symbol = Text.upper name := by
  rw [← Register.ofSymbol?_eq_some, readRegister]
  split
  · next hr => simp [hr]
  · next hr => simp [hr]

theorem readRegister_name (r : Register) : readRegister r.name = .ok r := readRegister_eq_ok.mpr rfl

end AsmListing

namespace AsmListing.Numeral

/-- The number is written in digits: marked or suffixed as hexadecimal, marked as binary, or else
decimal. Letters are of either case. -/
inductive Spells (n : Nat) : List Char → Prop where
  | marked {x : Char} {ds : List Char} (hx : x.toLower = 'x') (hne : ds ≠ [])
      (hds : ∀ c ∈ ds, IsDigit 16 c) (hn : value 16 ds = n) : Spells n ('0' :: x :: ds)
  | suffixed {h : Char} {ds : List Char} (hh : h.toLower = 'h') (hhead : ds.head?.any Char.isDigit)
      (hds : ∀ c ∈ ds, IsDigit 16 c) (hn : value 16 ds = n) : Spells n (ds ++ [h])
  | binary {b : Char} {ds : List Char} (hb : b.toLower = 'b') (hne : ds ≠ [])
      (hds : ∀ c ∈ ds, IsDigit 2 c) (hn : value 2 ds = n) : Spells n ('0' :: b :: ds)
  | decimal {ds : List Char} (hne : ds ≠ []) (hds : ∀ c ∈ ds, IsDigit 10 c)
      (hn : value 10 ds = n) : Spells n ds

private theorem isHexDigit_of_isDigit {c : Char} (h : IsDigit 16 c) : Terminal.isHexDigit c :=
  forall_digit (P := fun c => Terminal.isHexDigit c) (by decide) h

private theorem isBit_of_isDigit {c : Char} (h : IsDigit 2 c) : Terminal.isBit c :=
  forall_digit (P := fun c => Terminal.isBit c) (by decide) h

private theorem isAlphanum_of_toLower {c : Char} (h : c.toLower.isAlphanum) : c.isAlphanum := by
  by_cases hc : c.val ≥ 'A'.val ∧ c.val ≤ 'Z'.val
  · have hu : c.isUpper := by simpa [Char.isUpper] using hc
    simp [Char.isAlphanum, Char.isAlpha, hu]
  · rwa [Char.toLower, dif_neg hc] at h

namespace Spells

theorem isAlphanum {n : Nat} {w : List Char} (h : Spells n w) : ∀ c ∈ w, c.isAlphanum := by
  intro c hc
  cases h with
  | marked hx _ hds _ =>
    rcases List.mem_cons.mp hc with rfl | hc
    · rfl
    rcases List.mem_cons.mp hc with rfl | hc
    · exact isAlphanum_of_toLower (by rw [hx]; rfl)
    · exact (hds c hc).isAlphanum
  | suffixed hh _ hds _ =>
    rcases List.mem_append.mp hc with hc | hc
    · exact (hds c hc).isAlphanum
    · rw [List.mem_singleton.mp hc]
      exact isAlphanum_of_toLower (by rw [hh]; rfl)
  | binary hb _ hds _ =>
    rcases List.mem_cons.mp hc with rfl | hc
    · rfl
    rcases List.mem_cons.mp hc with rfl | hc
    · exact isAlphanum_of_toLower (by rw [hb]; rfl)
    · exact (hds c hc).isAlphanum
  | decimal _ hds _ => exact (hds c hc).isAlphanum

theorem head_isDigit {n : Nat} {w : List Char} (h : Spells n w) : w.head?.any Char.isDigit := by
  cases h with
  | marked => rfl
  | @suffixed _ ds _ hhead _ _ =>
    cases ds with
    | nil => cases hhead
    | cons c cs => exact hhead
  | binary => rfl
  | decimal hne hds _ =>
    obtain ⟨c, cs, rfl⟩ := List.exists_cons_of_ne_nil hne
    exact isDigit_of_isDigit (hds c List.mem_cons_self)

theorem isNumber {n : Nat} {w : List Char} (h : Spells n w) : Terminal.isNumber w := by
  simp only [Terminal.isNumber, Bool.or_eq_true]
  cases h with
  | marked hx hne hds _ =>
    refine .inl (.inl (.inl ?_))
    simpa [Terminal.isMarked, hx, hne] using fun c hc => isHexDigit_of_isDigit (hds c hc)
  | suffixed hh hhead hds _ =>
    refine .inl (.inl (.inr ?_))
    simp only [Terminal.isSuffixedHex, List.reverse_append, List.reverse_singleton,
      List.singleton_append, hh, beq_self_eq_true, Bool.true_and, Bool.and_eq_true, List.all_eq_true,
      List.mem_reverse, List.getLast?_reverse]
    exact ⟨fun c hc => isHexDigit_of_isDigit (hds c hc), hhead⟩
  | binary hb hne hds _ =>
    refine .inl (.inr ?_)
    simpa [Terminal.isMarked, hb, hne] using fun c hc => isBit_of_isDigit (hds c hc)
  | decimal hne hds _ =>
    refine .inr ?_
    simpa [Terminal.isDecimal, hne] using fun c hc => isDigit_of_isDigit (hds c hc)

end Spells

theorem isSuffixedHex_iff {w : List Char} : Terminal.isSuffixedHex w ↔ ∃ ds h,
    w = ds ++ [h] ∧ h.toLower = 'h' ∧ (∀ c ∈ ds, Terminal.isHexDigit c) ∧
      ds.head?.any Char.isDigit := by
  rw [Terminal.isSuffixedHex]
  constructor
  · intro h
    split at h
    · next c ds hreverse =>
      simp only [Bool.and_eq_true, beq_iff_eq, List.all_eq_true] at h
      obtain ⟨⟨hc, hds⟩, hhead⟩ := h
      refine ⟨ds.reverse, c, ?_, hc, fun d hd => hds d (List.mem_reverse.mp hd), ?_⟩
      · rw [← List.reverse_cons, ← hreverse, List.reverse_reverse]
      · rwa [List.head?_reverse]
    · cases h
  · rintro ⟨ds, h, rfl, hh, hds, hhead⟩
    simp only [List.reverse_append, List.reverse_singleton, List.singleton_append, hh, beq_self_eq_true,
      Bool.true_and, Bool.and_eq_true, List.all_eq_true, List.mem_reverse, List.getLast?_reverse]
    exact ⟨hds, hhead⟩

theorem isMarked_iff {letter : Char} {digit : Char → Bool} {w : List Char} :
    Terminal.isMarked letter digit w ↔
      ∃ c ds, w = '0' :: c :: ds ∧ c.toLower = letter ∧ ds ≠ [] ∧ ∀ c ∈ ds, digit c := by
  constructor
  · intro h
    unfold Terminal.isMarked at h
    split at h
    · next c ds =>
      simp only [Bool.and_eq_true, beq_iff_eq, Bool.not_eq_true', List.isEmpty_eq_false_iff,
        List.all_eq_true] at h
      exact ⟨c, ds, rfl, h.1.1, h.1.2, h.2⟩
    · cases h
  · rintro ⟨c, ds, rfl, hc, hne, hds⟩
    simpa [Terminal.isMarked, hc, hne] using hds

theorem isDigit_of_isHexDigit {c : Char} (h : Terminal.isHexDigit c) : IsDigit 16 c := by
  have hascii : c.toNat < 128 := by
    simp only [Terminal.isHexDigit, Bool.or_eq_true, Bool.and_eq_true, decide_eq_true_eq] at h
    rcases h with h | h
    · exact Text.toNat_lt_of_isDigit h
    · have hle : c.toLower.toNat ≤ 'f'.toNat := h.2
      exact Text.toNat_lt_of_toLower (hle.trans_lt (by decide))
  exact Text.forall_ascii (P := fun c => Terminal.isHexDigit c → ∃ d < 16, digitValue? c = some d)
    (by decide) hascii h

theorem isDigit_of_decimal {c : Char} (h : c.isDigit) : IsDigit 10 c :=
  Text.forall_ascii (P := fun c => c.isDigit → ∃ d < 10, digitValue? c = some d) (by decide +kernel)
    (Text.toNat_lt_of_isDigit h) h

theorem isDigit_of_isBit {c : Char} (h : Terminal.isBit c) : IsDigit 2 c := by
  rcases Bool.or_eq_true_iff.mp h with h | h <;> rw [beq_iff_eq.mp h]
  · exact ⟨0, by decide, rfl⟩
  · exact ⟨1, by decide, rfl⟩

/-- The number that a word spells: hexadecimal after `0x` or before `h`, binary after `0b`, and else
decimal. -/
def spelled (w : List Char) : Nat :=
  if Terminal.isMarked 'x' Terminal.isHexDigit w then value 16 (w.drop 2)
  else if Terminal.isSuffixedHex w then value 16 w.dropLast
  else if Terminal.isMarked 'b' Terminal.isBit w then value 2 (w.drop 2)
  else value 10 w

/-- Every number of the reader spells a number. -/
theorem spells_spelled {w : List Char} (h : Terminal.isNumber w) : Spells (spelled w) w := by
  unfold spelled
  split
  · next hmarked =>
    obtain ⟨x, ds, rfl, hx, hne, hds⟩ := isMarked_iff.mp hmarked
    exact .marked hx hne (fun c hc => isDigit_of_isHexDigit (hds c hc)) rfl
  split
  · next hsuffixed =>
    obtain ⟨ds, x, rfl, hx, hds, hhead⟩ := isSuffixedHex_iff.mp hsuffixed
    rw [List.dropLast_concat]
    exact .suffixed hx hhead (fun c hc => isDigit_of_isHexDigit (hds c hc)) rfl
  split
  · next hmarked =>
    obtain ⟨x, ds, rfl, hx, hne, hds⟩ := isMarked_iff.mp hmarked
    exact .binary hx hne (fun c hc => isDigit_of_isBit (hds c hc)) rfl
  · next hhex hsuffixed hbinary =>
    simp only [Terminal.isNumber, hhex, hsuffixed, hbinary, Bool.false_or, Terminal.isDecimal,
      Bool.and_eq_true, Bool.not_eq_true', List.isEmpty_eq_false_iff, List.all_eq_true] at h
    exact .decimal h.1 (fun c hc => isDigit_of_decimal (h.2 c hc)) rfl

/-- The word is a decimal number with more digits than can be read. -/
def TooLong (w : List Char) : Prop := Terminal.isDecimal w ∧ Text.digitLimit < w.length

instance (w : List Char) : Decidable (TooLong w) := by unfold TooLong; infer_instance

theorem isDecimal_iff {w : List Char} :
    Terminal.isDecimal w ↔ w ≠ [] ∧ ∀ c ∈ w, c.isDigit := by
  simp [Terminal.isDecimal]

theorem not_tooLong_of_length {w : List Char} (h : w.length ≤ Text.digitLimit) : ¬TooLong w :=
  fun hlong => absurd hlong.2 (not_lt.mpr h)

/-- A letter that announces a radix keeps a number from being decimal. -/
theorem not_tooLong_of_letter {w : List Char} {c : Char} (hc : c ∈ w) (h : c.toLower.isAlpha) :
    ¬TooLong w := by
  intro hlong
  have hdigit := (isDecimal_iff.mp hlong.1).2 c hc
  have hfalse := Text.forall_ascii (P := fun c => c.isDigit → ¬c.toLower.isAlpha) (by decide)
    (Text.toNat_lt_of_isDigit hdigit) hdigit
  exact hfalse h

private theorem literal_toLower (radix : Radix) {n : Nat} {ds : List Char} (hne : ds ≠ [])
    (hds : ∀ c ∈ ds, IsDigit radix.value c) (hn : value radix.value ds = n) :
    literal radix.value (ds.map Char.toLower) =
      if radix = .decimal ∧ Text.digitLimit < ds.length then .error (.overlong ds.length)
      else .ok (n : Int) := by
  have hr : radix.value ≤ 16 := by cases radix <;> decide
  have hlow : ∀ c ∈ ds, digitValue? c.toLower = digitValue? c :=
    fun c hc => digitValue?_toLower ((hds c hc).mono hr)
  rw [literal_digits radix (isDigit_map hlow hds) (by simpa using hne), value_map hlow, hn,
    List.length_map]

/-- A lower-case digit is none of the letters that announce a radix. -/
theorem not_announcing {radix : Nat} {ds : List Char} (hds : ∀ c ∈ ds, IsDigit radix c)
    {c : Char} (hc : c ∈ ds.map Char.toLower) :
    (radix ≤ 16 → c ≠ 'x' ∧ c ≠ 'h') ∧ (radix ≤ 10 → c ≠ 'b') := by
  obtain ⟨c, hmem, rfl⟩ := List.mem_map.mp hc
  exact ⟨fun hr => forall_digit (P := fun c => c.toLower ≠ 'x' ∧ c.toLower ≠ 'h') (by decide)
      ((hds c hmem).mono hr),
    fun hr => forall_digit (P := fun c => c.toLower ≠ 'b') (by decide +kernel)
      ((hds c hmem).mono hr)⟩

section Forms
variable {n : Nat} {c : Char} {ds w : List Char}

private theorem Spells.toList_lower (h : Spells n w) :
    (Text.lower (String.ofList w)).toList = w.map Char.toLower := by
  have hascii : Text.IsAscii (String.ofList w).toList := by
    simpa using Text.IsAscii.of_isAlphanum h.isAlphanum
  simpa using Text.toList_lower_ascii hascii

private theorem Spells.readNumber_marked (h : Spells n ('0' :: c :: ds)) (hx : c.toLower = 'x')
    (hliteral : literal 16 (ds.map Char.toLower) = .ok (n : Int)) :
    readNumber (String.ofList ('0' :: c :: ds)) = .ok (n : Int) := by
  simp only [AsmListing.readNumber, h.toList_lower, List.map_cons, hx, show '0'.toLower = '0' from rfl,
    hliteral]

/-- What stands before the final letter may start like a binary number, but not like a marked one. -/
private theorem Spells.readNumber_suffixed (h : Spells n (ds ++ [c])) (hh : c.toLower = 'h')
    (hds : ∀ d ∈ ds, IsDigit 16 d) (hliteral : literal 16 (ds.map Char.toLower) = .ok (n : Int)) :
    readNumber (String.ofList (ds ++ [c])) = .ok (n : Int) := by
  simp only [AsmListing.readNumber, h.toList_lower, List.map_append, List.map_cons, List.map_nil, hh,
    List.getLast?_concat, List.dropLast_concat, if_true, hliteral]
  split
  · next heq =>
    have hx : 'x' ∈ ds.map Char.toLower ++ ['h'] := by simp [heq]
    rcases List.mem_append.mp hx with hx | hx
    · exact absurd rfl ((not_announcing hds hx).1 le_rfl).1
    · exact absurd hx (by decide)
  · rfl
  · rfl

private theorem Spells.readNumber_binary (h : Spells n ('0' :: c :: ds)) (hb : c.toLower = 'b')
    (hds : ∀ d ∈ ds, IsDigit 2 d) (hliteral : literal 2 (ds.map Char.toLower) = .ok (n : Int)) :
    readNumber (String.ofList ('0' :: c :: ds)) = .ok (n : Int) := by
  simp only [AsmListing.readNumber, h.toList_lower, List.map_cons, hb, show '0'.toLower = '0' from rfl]
  split
  · next hlast =>
    have hh := List.mem_of_getLast? hlast
    simp only [List.mem_cons, Char.reduceEq, false_or] at hh
    exact absurd rfl ((not_announcing hds hh).1 (by decide)).2
  · rw [hliteral]

/-- Decimal digits have no letter that announces a radix. -/
private theorem Spells.readNumber_decimal (h : Spells n w) (hds : ∀ d ∈ w, IsDigit 10 d) :
    readNumber (String.ofList w) = match literal 10 (w.map Char.toLower) with
      | .ok n => .ok n
      | .error .malformed => .error (.invalid 10 (String.ofList (w.map Char.toLower)))
      | .error (.overlong count) => .error (.overlong count) := by
  simp only [AsmListing.readNumber, h.toList_lower]
  split
  · next heq => exact absurd rfl ((not_announcing hds (by simp [heq])).1 (by decide)).1
  · next heq => exact absurd rfl ((not_announcing hds (c := 'b') (by simp [heq])).2 le_rfl)
  · split
    · next hlast =>
      exact absurd rfl ((not_announcing hds (List.mem_of_getLast? hlast)).1 (by decide)).2
    · rfl

/-- What a number spells is what it is read as, unless it is too long. -/
theorem Spells.readNumber_eq (h : Spells n w) :
    readNumber (String.ofList w) = if TooLong w then .error (.overlong w.length) else .ok (n : Int) := by
  have hspells := h
  cases h with
  | marked hx hne hds hn =>
    have hliteral := literal_toLower .hexadecimal hne hds hn
    rw [if_neg (by simp)] at hliteral
    rw [if_neg (not_tooLong_of_letter (List.mem_cons_of_mem _ List.mem_cons_self) (hx ▸ rfl))]
    exact hspells.readNumber_marked hx hliteral
  | @suffixed _ ds hh hhead hds hn =>
    have hne : ds ≠ [] := by
      rintro rfl
      cases hhead
    have hliteral := literal_toLower .hexadecimal hne hds hn
    rw [if_neg (by simp)] at hliteral
    rw [if_neg (not_tooLong_of_letter (List.mem_append_right ds List.mem_cons_self) (hh ▸ rfl))]
    exact hspells.readNumber_suffixed hh hds hliteral
  | binary hb hne hds hn =>
    have hliteral := literal_toLower .binary hne hds hn
    rw [if_neg (by simp)] at hliteral
    rw [if_neg (not_tooLong_of_letter (List.mem_cons_of_mem _ List.mem_cons_self) (hb ▸ rfl))]
    exact hspells.readNumber_binary hb hds hliteral
  | decimal hne hds hn =>
    have hdecimal : Terminal.isDecimal w :=
      isDecimal_iff.mpr ⟨hne, fun c hc => isDigit_of_isDigit (hds c hc)⟩
    have hliteral := literal_toLower .decimal hne hds hn
    simp only [true_and, Radix.value] at hliteral
    rw [hspells.readNumber_decimal hds, hliteral]
    by_cases hlong : Text.digitLimit < w.length <;> simp [TooLong, hdecimal, hlong]

end Forms

theorem Spells.readNumber {n : Nat} {w : List Char} (h : Spells n w) (hshort : ¬TooLong w) :
    readNumber (String.ofList w) = .ok (n : Int) := by
  rw [h.readNumber_eq, if_neg hshort]

theorem Spells.numberValue {n : Nat} {s : String} (h : Spells n s.toList) (hshort : ¬TooLong s.toList) :
    numberValue s = .ok (n : Int) := by
  have hread := h.readNumber hshort
  rw [String.ofList_toList] at hread
  exact Outcome.mapError_eq_ok.mpr hread

theorem spells_toString {n : Int} (h : 0 ≤ n) : Spells n.toNat (toString n).toList := by
  obtain ⟨k, rfl⟩ := Int.eq_ofNat_of_zero_le h
  obtain ⟨hds, hv⟩ := @toDigits_spec 10 (by decide) (by decide) k
  have htext : (toString (k : Int)).toList = Nat.toDigits 10 k := String.toList_ofList
  rw [htext]
  exact .decimal Nat.toDigits_ne_nil hds hv

end AsmListing.Numeral

namespace AsmListing.NumberOptions
open Numeral

/-- The options write numbers as the reader takes them: without separators, and marked so that the
radix can be told. -/
structure Legible (o : NumberOptions) : Prop where
  unseparated : o.digitSeparator = ""
  smallPrefix : o.decimalPrefix = ""
  smallSuffix : o.decimalSuffix = ""
  marks : match o.radix with
    | .hexadecimal => (o.numberPrefix = "0x" ∧ o.numberSuffix = "") ∨
        (o.numberPrefix = "" ∧ o.numberSuffix = "h" ∧ o.leadingZeroBeforeHexLetter = true)
    | .decimal => o.numberPrefix = "" ∧ o.numberSuffix = ""
    | .binary => o.numberPrefix = "0b" ∧ o.numberSuffix = ""
    | .octal => False

/-- Without a separator the written digits denote the number, and those of a suffixed hexadecimal
number start with a decimal digit. -/
theorem denotes_body {o : NumberOptions} (h : o.digitSeparator = "") (bits n : Nat) :
    Denotes o.radix.value n (o.body bits n) ∧ (o.radix = .hexadecimal →
      o.leadingZeroBeforeHexLetter → o.numberPrefix = "" →
        (o.body bits n).head?.any Char.isDigit) := by
  have hpadded := o.denotes_padded bits n
  have hgrouped : grouped o.digitSeparator.toList o.groupSize (o.padded bits n) = o.padded bits n := by
    simp [grouped, h]
  rw [body_eq, hgrouped]
  exact ⟨denotes_startedWithDigit hpadded,
    fun hradix hzero hempty => head?_startedWithDigit hradix hzero hempty hpadded.head_isAlphanum⟩

/-- Legible options write numbers that the reader reads back. -/
theorem Legible.spells {o : NumberOptions} (h : o.Legible) (bits n : Nat) :
    Spells n (o.render bits n).toList := by
  obtain ⟨⟨hds, hv, hne⟩, hhead⟩ := denotes_body h.unseparated bits n
  rw [render]
  split
  · rw [h.smallPrefix, h.smallSuffix]
    obtain ⟨hds, hv⟩ := toDigits_spec (show 1 < 10 by decide) (by decide) n
    simpa using Spells.decimal Nat.toDigits_ne_nil hds hv
  · have hmarks := h.marks
    cases hr : o.radix with
    | hexadecimal =>
      rw [hr] at hmarks hds hv
      rcases hmarks with ⟨hp, hs⟩ | ⟨hp, hs, hz⟩
      · simpa [hp, hs] using Spells.marked (x := 'x') rfl hne hds hv
      · simpa [hp, hs] using Spells.suffixed (h := 'h') rfl (hhead hr hz hp) hds hv
    | decimal =>
      rw [hr] at hmarks hds hv
      simpa [hmarks.1, hmarks.2] using Spells.decimal hne hds hv
    | binary =>
      rw [hr] at hmarks hds hv
      simpa [hmarks.1, hmarks.2] using Spells.binary (b := 'b') rfl hne hds hv
    | octal =>
      rw [hr] at hmarks
      cases hmarks

/-- Decimal digits are neither padded nor started with another digit. -/
private theorem body_decimal {o : NumberOptions} (hradix : o.radix = .decimal)
    (h : o.digitSeparator = "") (bits n : Nat) : o.body bits n = Nat.toDigits 10 n := by
  simp [body, hradix, Radix.bitsPerDigit?, grouped, h, digits, Radix.value]

/-- What legible options can write is not too long to be read. -/
theorem Legible.not_tooLong {o : NumberOptions} (h : o.Legible) {n : Nat} (hshort : ¬o.Overlong n)
    (bits : Nat) : ¬TooLong (o.render bits n).toList := by
  rw [render]
  split
  · next hsmall =>
    have hdigits : ¬Text.Overlong n := Text.not_overlong_of_lt (by omega)
    rw [h.smallPrefix, h.smallSuffix]
    exact not_tooLong_of_length (by simpa [Text.Overlong] using hdigits)
  · have hmarks := h.marks
    cases hr : o.radix with
    | hexadecimal =>
      rw [hr] at hmarks
      rcases hmarks with ⟨hp, hs⟩ | ⟨hp, hs, hz⟩
      · exact not_tooLong_of_letter (c := 'x') (by simp [hp]) rfl
      · exact not_tooLong_of_letter (c := 'h') (by simp [hs]) rfl
    | decimal =>
      rw [hr] at hmarks
      have hdigits : ¬Text.Overlong n := fun hlong => hshort ⟨hr, hlong⟩
      rw [hmarks.1, hmarks.2, body_decimal hr h.unseparated]
      exact not_tooLong_of_length (by simpa [Text.Overlong] using hdigits)
    | binary =>
      rw [hr] at hmarks
      exact not_tooLong_of_letter (c := 'b') (by simp [hmarks.1]) rfl
    | octal =>
      rw [hr] at hmarks
      cases hmarks

theorem Legible.not_tooLong_of_lt {o : NumberOptions} (h : o.Legible) {n : Nat} (hn : n < 2 ^ 64)
    (bits : Nat) : ¬TooLong (o.render bits n).toList :=
  h.not_tooLong (fun hlong => Text.not_overlong_of_lt hn hlong.2) bits

/-- Legible options write a number of up to eight bytes so that it can be read back. -/
theorem Legible.readNumber_render {o : NumberOptions} (h : o.Legible) {n : Nat} (hn : n < 2 ^ 64)
    (bits : Nat) : readNumber (o.render bits n) = .ok (n : Int) := by
  have hread := (h.spells bits n).readNumber (h.not_tooLong_of_lt hn bits)
  rwa [String.ofList_toList] at hread

end AsmListing.NumberOptions
