import Mathlib
import AsmListing.Proofs.Meaning.Refusal
import AsmListing.Proofs.Numeral.Forms
import AsmListing.Proofs.Reader.Sentences

/-! How the reading of a text can fail. The lexer lets only words through that can be converted, so a
text that is not read is refused for its form or for what it says. The exceptions are decorators with a
long s and numbers that are too long. -/
namespace AsmListing
open Outcome
open Lexeme (IsSplit)
open Numeral (spelled TooLong)

/-- What the reader makes of the text of the lexeme exists. The name of a register may be unknown. -/
def Lexeme.Converts (l : Lexeme) : Prop :=
  match l.terminal with
  | .prefixWord => ∃ p, Prefix.ofWord? (Text.lower l.text) = some p
  | .sizeWord => memorySize l.text ∈ ([1, 2, 4, 8, 16] : List Int)
  | .number => ∃ n, readNumber l.text = .ok n
  | .decorator => ∃ r, readRounding l.text = .ok r
  | .name => ∀ e, readRegister l.text = .error e → e = .unknownRegister l.text
  | _ => True

private theorem Lexeme.Fits.converts {l : Lexeme} (h : l.Fits)
    (hletters : l.terminal = .decorator → '\u017f' ∉ l.text.toList)
    (hshort : l.terminal = .number → ¬TooLong l.text.toList) : l.Converts := by
  obtain ⟨t, text⟩ := l
  cases t with
  | prefixWord => exact Option.isSome_iff_exists.mp h
  | sizeWord => exact h
  | number => exact ⟨_, mapError_eq_ok.mp ((numberValue_eq_ok h).mpr ⟨hshort rfl, rfl⟩)⟩
  | decorator => exact exists_readRounding h (hletters rfl)
  | name =>
    intro e he
    rw [readRegister] at he
    split at he
    · cases he
    · cases he
      rfl
  | _ => trivial

section Numbers
variable {word : String} {ls : List Lexeme}

private theorem Term.Derives.mem_of_number? {t : Term} (h : t.Derives ls) (hword : word ∈ t.number?) :
    ⟨.number, word⟩ ∈ ls := by
  cases h with
  | register => cases hword
  | scaled | number =>
    cases hword
    simp

private theorem Phrase.MoreDerive.mem_of_termNumbers {more : List (Sign × Term)} (h : MoreDerive more ls)
    (hword : word ∈ termNumbers more) : ⟨.number, word⟩ ∈ ls := by
  induction h with
  | nil => cases hword
  | @cons s t more as ms first _ ih =>
    rw [List.mem_cons, List.mem_append]
    rw [termNumbers, List.mem_filterMap] at hword ih
    obtain ⟨x, hx, hword⟩ := hword
    rcases List.mem_cons.mp hx with rfl | hx
    · exact .inr (.inl (first.mem_of_number? hword))
    · exact .inr (.inr (ih ⟨x, hx, hword⟩))

/-- The words for numbers in an operand are lexemes of that kind. -/
private theorem Phrase.Derives.mem_of_numbers {p : Phrase} (h : p.Derives ls) (hword : word ∈ p.numbers) :
    ⟨.number, word⟩ ∈ ls := by
  cases h with
  | register | decorator => cases hword
  | number | signed | shortBranch =>
    cases List.mem_singleton.mp hword
    simp
  | @memory o c size segment first more zs ss as ms hsize hsegment hfirst hmore =>
    simp only [List.mem_append, List.mem_cons]
    obtain ⟨x, hx, hword⟩ := List.mem_filterMap.mp hword
    rcases List.mem_cons.mp hx with rfl | hx
    · exact .inr (.inr (.inr (.inl (hfirst.mem_of_number? hword))))
    · have hmem := hmore.mem_of_termNumbers (List.mem_filterMap.mpr ⟨x, hx, hword⟩)
      exact .inr (.inr (.inr (.inr (.inl hmem))))

theorem Sentence.Derives.mem_of_numbers {s : Sentence} (h : s.Derives ls) (hword : word ∈ s.numbers) :
    ⟨.number, word⟩ ∈ ls := by
  obtain ⟨p, hp, hword⟩ := List.mem_flatMap.mp hword
  obtain ⟨ms, hms, hderives⟩ := h.exists_derives hp
  exact hms (hderives.mem_of_numbers hword)

end Numbers

namespace ReadError

/-- The error comes from a decorator of the text that has a long s. -/
def FromLongS (e : ReadError) (text : String) : Prop :=
  ∃ ls, IsSplit text ls ∧ ∃ l ∈ ls, l.terminal = .decorator ∧ '\u017f' ∈ l.text.toList ∧
    ∃ cause, readRounding l.text = .error cause ∧ e = .meaningless text cause

/-- The error comes from a number of the text that is too long. -/
def FromLongNumber (e : ReadError) (text : String) : Prop :=
  ∃ ls, IsSplit text ls ∧ ∃ l ∈ ls, l.terminal = .number ∧
    ∃ cause : MeaningError, cause.FromLongNumber l.text ∧ e = .meaningless text cause

theorem FromLongNumber.not_isRefusal {e : ReadError} {text : String} (h : e.FromLongNumber text) :
    ¬e.isRefusal := by
  obtain ⟨_, _, _, _, _, cause, hlong, rfl⟩ := h
  exact hlong.not_isRefusal

end ReadError

/-- A sentence is refused, or one of its lexemes is a number that is too long or a decorator with a
long s. -/
private theorem Sentence.Derives.onlyFails_instruction {text : String} {ls : List Lexeme} {s : Sentence}
    (h : s.Derives ls) (hsplit : IsSplit text ls) :
    OnlyFails (fun e => e.isRefusal ∨ (ReadError.meaningless text e).FromLongS text ∨
      (ReadError.meaningless text e).FromLongNumber text) s.instruction := by
  refine (Sentence.onlyFails_instruction_of_fits (h.fits hsplit)).imp fun e he => ?_
  rcases he with (hrefusal | ⟨word, hword, hlong⟩) | ⟨p, hp, d, hd, hs, hr⟩
  · exact .inl hrefusal
  · exact .inr (.inr ⟨ls, hsplit, _, h.mem_of_numbers hword, rfl, e, hlong, rfl⟩)
  · obtain ⟨ms, hms, hderives⟩ := h.exists_derives hp
    rw [hd] at hderives
    cases hderives with
    | decorator d =>
      exact .inr (.inl ⟨ls, hsplit, _, hms (List.mem_singleton_self _), rfl, hs, e, hr, rfl⟩)

namespace Instruction

theorem onlyFails_read (text : String) :
    OnlyFails (fun e => e.isRefusal ∨ e.FromLongS text ∨ e.FromLongNumber text) (read text) := by
  intro e he
  rw [read] at he
  cases hparse : Sentence.parse? text with
  | none =>
    rw [hparse] at he
    cases he
    exact .inl rfl
  | some s =>
    obtain ⟨ls, hsplit, hderives⟩ := Sentence.parse?_eq_some.mp hparse
    rw [hparse] at he
    obtain ⟨cause, hcause, rfl⟩ := mapError_eq_error.mp he
    exact hderives.onlyFails_instruction hsplit cause hcause

/-- A text without a long s is refused, or one of its numbers is too long. -/
theorem onlyFails_read_of_letters {text : String} (h : '\u017f' ∉ text.toList) :
    OnlyFails (fun e => e.isRefusal ∨ e.FromLongNumber text) (read text) := by
  refine (onlyFails_read text).imp fun e he => he.imp_right fun hlong => hlong.resolve_left ?_
  rintro ⟨ls, hsplit, l, hl, -, hs, -⟩
  exact h (hsplit.subset hl hs)

/-- Every number of the text can be read and shown. -/
def NumbersWithinLimit (text : String) : Prop :=
  ∀ ls, IsSplit text ls → ∀ l ∈ ls, l.terminal = .number →
    ¬TooLong l.text.toList ∧ ¬Text.Overlong (spelled l.text.toList)

private theorem not_fromLongNumber {text : String} (h : NumbersWithinLimit text) (e : ReadError) :
    ¬e.FromLongNumber text := by
  rintro ⟨ls, hsplit, l, hl, hkind, cause, hlong, rfl⟩
  obtain ⟨hread, hshown⟩ := h ls hsplit l hl hkind
  rcases hlong with ⟨hlong, -⟩ | ⟨hlong, -⟩
  · exact hread hlong
  · exact hshown hlong

/-- Every lexeme of a sentence can be converted unless it is a decorator with a long s or a number that
is too long. So a text without a long s, whose numbers are within the limit, is read or refused, and
such decorators and numbers are the only other reasons to fail. -/
theorem read_fails_as_refused (text : String) :
    (∀ ls, IsSplit text ls → ∀ l ∈ ls, (l.terminal = .decorator → '\u017f' ∉ l.text.toList) →
      (l.terminal = .number → ¬TooLong l.text.toList) → l.Converts) ∧
    ('\u017f' ∉ text.toList → NumbersWithinLimit text →
      (∃ i, read text = .ok i) ∨ ∃ e, read text = .error e ∧ e.isRefusal) ∧
    ∀ e, read text = .error e → e.isRefusal ∨ e.FromLongS text ∨ e.FromLongNumber text := by
  refine ⟨fun ls hsplit l hl => (hsplit.1.fits l hl).1.converts, fun hletters hlimit => ?_,
    onlyFails_read text⟩
  cases hread : read text with
  | ok i => exact .inl ⟨i, rfl⟩
  | error e =>
    rcases onlyFails_read_of_letters hletters e hread with hrefusal | hlong
    · exact .inr ⟨e, rfl, hrefusal⟩
    · exact absurd hlong (not_fromLongNumber hlimit e)

/-- In the first text are a Kelvin sign, a wide blank and an i without its dot. -/
theorem read_fails_as_refused_foreign_letters :
    let text := "LOC\u212a neg byte\u2003ptr [r\u0131p+0B1h]"
    let ls : List Lexeme := [⟨.prefixWord, "LOC\u212a"⟩, ⟨.name, "neg"⟩, ⟨.sizeWord, "byte\u2003ptr"⟩,
      ⟨.openBracket, "["⟩, ⟨.name, "r\u0131p"⟩, ⟨.sign, "+"⟩, ⟨.number, "0B1h"⟩, ⟨.closeBracket, "]"⟩]
    let longS := "vaddps xmm0, \x7brn-\u017fae\x7d"
    (IsSplit text ls ∧ ∀ l ∈ ls, l.Converts) ∧ '\u017f' ∉ text.toList ∧ NumbersWithinLimit text ∧
      ((∃ i, read text = .ok i) ∨ ∃ e, read text = .error e ∧ e.isRefusal) ∧
      ∃ e, read longS = .error e ∧ ¬e.isRefusal ∧ e.FromLongS longS := by
  intro text ls longS
  have hsplit : IsSplit text ls := Lexeme.isSplit_iff.mpr (by decide +kernel)
  have hletters : '\u017f' ∉ text.toList := by decide
  have hlimit : NumbersWithinLimit text := by
    intro ms hms
    rw [hms.unique hsplit]
    decide +kernel
  have hparse : Sentence.parse? longS =
      some ⟨[], "vaddps", [⟨.register "xmm0", false⟩, ⟨.decorator "\x7brn-\u017fae\x7d", false⟩]⟩ := by
    decide
  have hread : read longS = .error (.meaningless longS (.unknownRounding "rn-\u017fae")) := by
    rw [read, hparse]
    rfl
  obtain ⟨hconverts, hrefuses, -⟩ := read_fails_as_refused text
  refine ⟨⟨hsplit, fun l hl => hconverts ls hsplit l hl (fun _ hs => ?_) fun hkind => ?_⟩, hletters,
    hlimit, hrefuses hletters hlimit, _, hread, by decide, ?_⟩
  · exact hletters (hsplit.subset hl hs)
  · exact (hlimit ls hsplit l hl hkind).1
  · refine ((((read_fails_as_refused longS).2.2 _ hread).resolve_left (by decide)).resolve_right ?_)
    rintro ⟨_, -, _, -, -, _, ⟨-, hcause⟩ | ⟨-, hcause | hcause⟩, heq⟩ <;> cases heq <;> cases hcause

end Instruction

namespace Sentence
variable {mnemonic name : String}

/-- A register and a one that has more digits than can be read. -/
def overlongMove (mnemonic name : String) : Sentence :=
  plain [] mnemonic [.register name, .number none (String.ofList overlongOne)]

theorem parse?_overlongMove (hm : IsMnemonic mnemonic) (hname : IsOperandName name) :
    parse? (mnemonic ++ " " ++ name ++ "," ++ String.ofList overlongOne) =
      some (overlongMove mnemonic name) := by
  have hspelled : ∀ p ∈ [Phrase.register name, .number none (String.ofList overlongOne)], p.Spelled := by
    have hnumeral : IsNumeral (String.ofList overlongOne) :=
      ⟨1, by simpa using spells_overlongOne⟩
    simpa [Phrase.Spelled] using ⟨hname, hnumeral⟩
  have htext : String.ofList (spelling [] mnemonic
      [.register name, .number none (String.ofList overlongOne)]) =
        mnemonic ++ " " ++ name ++ "," ++ String.ofList overlongOne := by
    apply String.toList_injective
    simp [spelling, operandsSpelling, Phrase.listSpelling, Phrase.spelling]
  rw [← htext]
  exact parse?_spelling [] hm hspelled

theorem instruction_overlongMove (h : IsRegister name) :
    (overlongMove mnemonic name).instruction = .error (.literal (.overlong (Text.digitLimit + 1))) := by
  have hregister : readRegister name = .ok (registerOf name) := readRegister_iff.mpr ⟨h, rfl⟩
  have hnumber : numberValue (String.ofList overlongOne) =
      .error (.literal (.overlong (Text.digitLimit + 1))) := by
    have hvalue := @numberValue_of_isNumber (String.ofList overlongOne)
      (by simpa using spells_overlongOne.isNumber)
    rwa [String.toList_ofList, if_pos tooLong_overlongOne, length_overlongOne] at hvalue
  simp only [overlongMove, plain, instruction, List.map_cons, List.map_nil, List.mapM_cons, Phrase.draft,
    hregister, hnumber]
  rfl

end Sentence

theorem Instruction.read_overlongMove {mnemonic name : String} (hm : IsMnemonic mnemonic)
    (hname : IsOperandName name) (h : IsRegister name) :
    let text := mnemonic ++ " " ++ name ++ "," ++ String.ofList overlongOne
    read text = .error (.meaningless text (.literal (.overlong (Text.digitLimit + 1)))) := by
  intro text
  rw [read, Sentence.parse?_overlongMove hm hname]
  dsimp only
  rw [Sentence.instruction_overlongMove h]
  rfl

end AsmListing
