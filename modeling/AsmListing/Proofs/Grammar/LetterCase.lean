import Mathlib
import AsmListing.Proofs.Grammar.Acceptance
import AsmListing.Proofs.Text.SmallLetters

/-! Letter case in instruction texts. A text in small letters is cut into the same lexemes in small
letters, which derive from the same sentence in small letters. -/
namespace AsmListing
open Text (small apply_toLower)

namespace Terminal
variable {cs : List Char}

private theorem isNameChar_toLower (c : Char) : isNameChar c.toLower = isNameChar c :=
  apply_toLower (by decide) c

private theorem isHexDigit_toLower (c : Char) : isHexDigit c.toLower = isHexDigit c :=
  apply_toLower (by decide) c

theorem wordOf_map_toLower (cs : List Char) :
    wordOf (cs.map Char.toLower) = (wordOf cs).map Char.toLower :=
  Text.takeWhile_map_toLower Text.isWordChar_toLower cs

private theorem isOneOf_map_toLower (words : List String) (w : List Char) :
    isOneOf words (w.map Char.toLower) = isOneOf words w := by
  have hfold (c : Char) : foldLetter c.toLower = foldLetter c := apply_toLower (by decide) c
  simp only [isOneOf, List.map_map, Function.comp_def, hfold]

private theorem isMarked_map_toLower {letter : Char} {isDigit : Char → Bool}
    (hdigit : ∀ c, isDigit c.toLower = isDigit c) (w : List Char) :
    isMarked letter isDigit (w.map Char.toLower) = isMarked letter isDigit w := by
  have hzero (c : Char) : (c.toLower = '0') = (c = '0') := apply_toLower (f := (· = '0')) (by decide) c
  cases w with
  | nil => rfl
  | cons a w =>
    cases w with
    | nil => simp [isMarked]
    | cons c ds =>
      by_cases ha : a = '0'
      · subst ha
        simp [isMarked, hdigit, Function.comp_def]
      · simp [isMarked, ha, hzero]

private theorem isNumber_map_toLower (w : List Char) : isNumber (w.map Char.toLower) = isNumber w := by
  have hbit (c : Char) : isBit c.toLower = isBit c := apply_toLower (by decide) c
  have hdigit (c : Char) : c.toLower.isDigit = c.isDigit := apply_toLower (by decide) c
  have hsuffixed : isSuffixedHex (w.map Char.toLower) = isSuffixedHex w := by
    rw [isSuffixedHex, ← List.map_reverse, isSuffixedHex]
    cases w.reverse with
    | nil => rfl
    | cons c ds => simp [isHexDigit_toLower, hdigit, Function.comp_def, Option.any_map]
  have hdecimal : isDecimal (w.map Char.toLower) = isDecimal w := by
    simp [isDecimal, hdigit, Function.comp_def]
  rw [isNumber, isMarked_map_toLower isHexDigit_toLower, isMarked_map_toLower hbit, hsuffixed, hdecimal,
    isNumber]

private theorem wordLength?_map_toLower {accepts : List Char → Bool}
    (h : ∀ w, accepts (w.map Char.toLower) = accepts w) (cs : List Char) :
    wordLength? accepts (cs.map Char.toLower) = wordLength? accepts cs := by
  simp only [wordLength?, wordOf_map_toLower, h, List.length_map]

private theorem charLength?_map_toLower {accepts : Char → Bool}
    (h : ∀ n < 128, accepts (Char.ofNat n).toLower = accepts (Char.ofNat n)) (cs : List Char) :
    charLength? accepts (cs.map Char.toLower) = charLength? accepts cs := by
  cases cs with
  | nil => rfl
  | cons c cs => rw [List.map_cons, charLength?, charLength?, apply_toLower h]

/-- No terminal tells the two cases of letters apart. -/
theorem length?_map_toLower (t : Terminal) (cs : List Char) :
    t.length? (cs.map Char.toLower) = t.length? cs := by
  cases t with
  | prefixWord | shortWord => exact wordLength?_map_toLower (isOneOf_map_toLower _) cs
  | number => exact wordLength?_map_toLower isNumber_map_toLower cs
  | sizeWord =>
    simp only [length?, sizeLength?, wordOf_map_toLower, isOneOf_map_toLower, ← List.map_drop,
      Text.takeWhile_map_toLower Text.isBlank_toLower, List.length_map, List.isEmpty_map]
  | name =>
    have hletter (c : Char) : isNameLetter c.toLower = isNameLetter c := apply_toLower (by decide) c
    simp only [length?, List.head?_map, Option.any_map, hletter,
      Text.takeWhile_map_toLower isNameChar_toLower, List.length_map]
  | decorator => simp only [length?, ← List.map_take, isOneOf_map_toLower]
  | sign | comma | colon | star | less | greater | openBracket | closeBracket =>
    exact charLength?_map_toLower (by decide) cs

end Terminal

theorem Place.read?_map_toLower (place : Place) (cs : List Char) :
    place.read? (cs.map Char.toLower) = place.read? cs := by
  simp only [read?, Terminal.length?_map_toLower]

namespace Lexeme

def small (l : Lexeme) : Lexeme := ⟨l.terminal, Text.small l.text⟩

/-- A text in small letters is scanned as before. -/
theorem scan_map_toLower (place : Place) (left : Nat) (cs : List Char) :
    scan place left (cs.map Char.toLower) = (scan place left cs).map (List.map small) := by
  induction cs generalizing place left with
  | nil =>
    rw [List.map_nil, scan]
    split <;> rfl
  | cons c cs ih =>
    cases left with
    | succ left => exact ih place left
    | zero =>
      have hgap : isGap c.toLower = isGap c := apply_toLower (by decide) c
      have hread := place.read?_map_toLower (c :: cs)
      rw [List.map_cons] at hread
      rw [List.map_cons, scan, scan, hgap, hread, ih]
      split
      · rfl
      cases place.read? (c :: cs) with
      | none => rfl
      | some found =>
        obtain ⟨t, after, n⟩ := found
        have htaken : String.ofList ((c.toLower :: cs.map Char.toLower).take n) =
            Text.small (String.ofList ((c :: cs).take n)) := by
          rw [← List.map_cons, ← List.map_take, Text.small, String.toList_ofList]
        simp only [ih, Option.map_map]
        congr 1
        funext ls
        simp [small, htaken]

end Lexeme

theorem Sign.ofText_small (s : String) : Sign.ofText (Text.small s) = Sign.ofText s := by
  have hminus (c : Char) : (c.toLower = '-') = (c = '-') := apply_toLower (f := (· = '-')) (by decide) c
  have hsame : Text.small s = "-" ↔ s = "-" := by
    rw [← String.toList_inj, Text.toList_small, ← String.toList_inj]
    constructor
    · intro h
      obtain ⟨c, hs, hc⟩ := List.map_eq_singleton_iff.mp h
      rw [hs, (hminus c).mp hc]
      rfl
    · intro h
      rw [h]
      rfl
  simp only [Sign.ofText, hsame]

def Term.small : Term → Term
  | .register name => .register (Text.small name)
  | .scaled name factor => .scaled (Text.small name) (Text.small factor)
  | .number text => .number (Text.small text)

def Phrase.small : Phrase → Phrase
  | .register name => .register (Text.small name)
  | .number sign text => .number sign (Text.small text)
  | .shortBranch text => .shortBranch (Text.small text)
  | .decorator text => .decorator (Text.small text)
  | .memory size segment first more =>
    .memory (size.map Text.small) (segment.map Text.small) first.small
      (more.map fun (sign, term) => (sign, term.small))

def OperandPhrase.small (p : OperandPhrase) : OperandPhrase := ⟨p.phrase.small, p.implicit⟩

def Sentence.small (s : Sentence) : Sentence :=
  ⟨s.prefixes.map Text.small, Text.small s.mnemonic, s.operands.map OperandPhrase.small⟩

section Derives
variable {ls : List Lexeme}

theorem Term.Derives.small {t : Term} (h : t.Derives ls) : t.small.Derives (ls.map Lexeme.small) := by
  cases h with
  | scaled r star k => exact .scaled _ _ _
  | register r => exact .register _
  | number n => exact .number _

theorem Phrase.MoreDerive.small {more : List (Sign × Term)} (h : MoreDerive more ls) :
    MoreDerive (more.map fun (sign, term) => (sign, term.small)) (ls.map Lexeme.small) := by
  induction h with
  | nil => exact .nil
  | cons s first rest ih =>
    rw [List.map_cons, List.map_cons, List.map_append, ← Sign.ofText_small]
    exact .cons _ first.small ih

theorem Phrase.SizeDerives.small {size : Option String} (h : SizeDerives size ls) :
    SizeDerives (size.map Text.small) (ls.map Lexeme.small) := by
  cases h with
  | none => exact .none
  | some s => exact .some _

theorem Phrase.SegmentDerives.small {segment : Option String} (h : SegmentDerives segment ls) :
    SegmentDerives (segment.map Text.small) (ls.map Lexeme.small) := by
  cases h with
  | none => exact .none
  | some s colon => exact .some _ _

theorem Phrase.Derives.small {p : Phrase} (h : p.Derives ls) : p.small.Derives (ls.map Lexeme.small) := by
  cases h with
  | register r => exact .register _
  | number n => exact .number _
  | signed s n =>
    rw [Phrase.small, ← Sign.ofText_small]
    exact .signed _ _
  | shortBranch w n => exact .shortBranch _ _
  | decorator d => exact .decorator _
  | memory o c hsize hsegment hfirst hmore =>
    simp only [List.map_append, List.map_cons, List.map_nil]
    exact .memory _ _ hsize.small hsegment.small hfirst.small hmore.small

theorem OperandPhrase.Derives.small {p : OperandPhrase} (h : p.Derives ls) :
    p.small.Derives (ls.map Lexeme.small) := by
  cases h with
  | implicit l g h =>
    rw [List.map_cons, List.map_append]
    exact .implicit _ _ h.small
  | explicit h => exact .explicit h.small

theorem Sentence.OperandsDerive.small {ps : List OperandPhrase} (h : OperandsDerive ps ls) :
    OperandsDerive (ps.map OperandPhrase.small) (ls.map Lexeme.small) := by
  induction h with
  | last h => exact .last h.small
  | cons c first rest ih =>
    rw [List.map_append]
    exact .cons _ first.small ih

/-- Lexemes in small letters derive from the sentence in small letters. -/
theorem Sentence.Derives.small {s : Sentence} (h : s.Derives ls) :
    s.small.Derives (ls.map Lexeme.small) := by
  have hwords (words : List String) : (words.map (Lexeme.mk .prefixWord)).map Lexeme.small =
      (words.map Text.small).map (Lexeme.mk .prefixWord) := by
    simp [Lexeme.small]
  cases h with
  | bare words m =>
    rw [List.map_append, hwords]
    exact .bare _ _
  | operands words m h =>
    rw [List.map_append, hwords]
    exact .operands _ _ h.small

end Derives

namespace Sentence

private theorem ofLexemes?_small (ls : List Lexeme) :
    ofLexemes? (ls.map Lexeme.small) = (ofLexemes? ls).map small := by
  cases hread : ofLexemes? ls with
  | some s => exact ofLexemes?_eq_some.mpr (ofLexemes?_eq_some.mp hread).small
  | none =>
    -- Whether there is a derivation is seen from the terminals, which stay the same.
    have hterminals : (ls.map Lexeme.small).map Lexeme.terminal = ls.map Lexeme.terminal := by
      simp [Function.comp_def, Lexeme.small]
    by_contra hsome
    obtain ⟨s', hs'⟩ := Option.ne_none_iff_exists'.mp hsome
    have hsentence := Place.isSentence_map_iff.mpr ⟨s', ofLexemes?_eq_some.mp hs'⟩
    rw [hterminals] at hsentence
    obtain ⟨s, hs⟩ := Place.isSentence_map_iff.mp hsentence
    rw [ofLexemes?_eq_some.mpr hs] at hread
    cases hread

/-- A text in small letters is read as the sentence in small letters. -/
theorem parse?_small (text : String) : parse? (Text.small text) = (parse? text).map small := by
  rw [parse?, Text.toList_small, Text.trim_map_toLower, Lexeme.scan_map_toLower, parse?]
  cases Lexeme.scan .start 0 (Text.trim text.toList) with
  | none => rfl
  | some ls => exact ofLexemes?_small ls

end Sentence
end AsmListing
