import Mathlib
import AsmListing.Proofs.Grammar.LetterCase
import AsmListing.Proofs.Meaning.Conversion

/-! Letter case and what a text stands for. In small letters a text stands for the same instruction, or
fails for the same reason with its words quoted in small letters. -/
namespace AsmListing
open Outcome

/-- The error with the word that it quotes in small letters. The other words that are quoted are in small
letters from the start. -/
def MeaningError.small : MeaningError → MeaningError
  | .unknownRegister name => .unknownRegister (Text.small name)
  | e => e

def ReadError.small : ReadError → ReadError
  | .malformed text => .malformed (Text.small text)
  | .meaningless text cause => .meaningless (Text.small text) cause.small

theorem MeaningError.small_of_isUnquoted {e : MeaningError} (h : e.isUnquoted) : e.small = e := by
  cases e with
  | unknownRegister => cases h
  | _ => rfl

theorem ReadError.isRefusal_small (e : ReadError) : e.small.isRefusal = e.isRefusal := by
  cases e with
  | malformed text => rfl
  | meaningless text cause => cases cause <;> rfl

theorem readRegister_small (name : String) :
    readRegister (Text.small name) = (readRegister name).mapError MeaningError.small := by
  rw [readRegister, Text.upper_small, readRegister]
  cases Register.ofSymbol? (Text.upper name) <;> rfl

theorem numberValue_small (text : String) :
    numberValue (Text.small text) = (numberValue text).mapError MeaningError.small := by
  have hkept : OnlyFails (fun e => e.small = e) (numberValue text) := onlyFails_mapError fun _ => rfl
  rw [hkept.mapError_eq_self, numberValue, readNumber, Text.lower_small]
  rfl

theorem readRounding_small (text : String) :
    readRounding (Text.small text) = (readRounding text).mapError MeaningError.small := by
  have hword : String.ofList ((Text.small text).toList.drop 1).dropLast =
      Text.small (String.ofList (text.toList.drop 1).dropLast) := by
    rw [Text.toList_small, ← List.map_drop, ← List.map_dropLast, Text.small, String.toList_ofList]
  rw [readRounding, hword, Text.lower_small, readRounding]
  cases Rounding.ofWord? (Text.lower (String.ofList (text.toList.drop 1).dropLast)) <;> rfl

theorem memorySize_small (text : String) : memorySize (Text.small text) = memorySize text := by
  have hword : String.ofList (Terminal.wordOf (Text.small text).toList) =
      Text.small (String.ofList (Terminal.wordOf text.toList)) := by
    rw [Text.toList_small, Terminal.wordOf_map_toLower, Text.small, String.toList_ofList]
  rw [memorySize, hword, Text.lower_small, memorySize]

theorem prefixMask_small (words : List String) : prefixMask (words.map Text.small) = prefixMask words := by
  simp only [prefixMask, List.filterMap_map, Function.comp_def, Text.lower_small]

theorem Term.value_small (t : Term) : t.small.value = t.value.mapError MeaningError.small := by
  cases t with
  | register name =>
    rw [small, value, value]
    exact map_eq_mapError (readRegister_small name) _
  | scaled name factor =>
    rw [small, value, value]
    refine bind_eq_mapError (readRegister_small name) fun r => ?_
    exact bind_eq_mapError (numberValue_small factor) fun n => rfl
  | number text =>
    rw [small, value, value]
    exact map_eq_mapError (numberValue_small text) _

/-- An operand in small letters is read as before. -/
theorem Phrase.draft_small (p : Phrase) : p.small.draft = p.draft.mapError MeaningError.small := by
  cases p with
  | register name =>
    rw [small, draft, draft]
    exact map_eq_mapError (readRegister_small name) _
  | number sign text =>
    rcases sign with _ | _ | _ <;> simp only [small, draft]
    · exact map_eq_mapError (numberValue_small text) _
    · exact map_eq_mapError (numberValue_small text) _
    · exact map_eq_mapError (numberValue_small text) _
  | shortBranch text =>
    rw [small, draft, draft]
    exact map_eq_mapError (numberValue_small text) _
  | decorator text =>
    rw [small, draft, draft]
    exact map_eq_mapError (readRounding_small text) _
  | memory size segment first more =>
    have hsegment : (segment.map Text.small).elim (.ok .none) readRegister =
        (segment.elim (.ok Register.none) readRegister).mapError MeaningError.small := by
      cases segment with
      | none => rfl
      | some name =>
        rw [Option.map_some, Option.elim_some, Option.elim_some]
        exact readRegister_small name
    have hsize : (size.map Text.small).elim 0 memorySize = size.elim 0 memorySize := by
      cases size with
      | none => rfl
      | some text =>
        rw [Option.map_some, Option.elim_some, Option.elim_some]
        exact memorySize_small text
    rw [small, draft, draft, hsize, List.mapM_map]
    refine bind_eq_mapError hsegment fun segment => ?_
    refine bind_eq_mapError first.value_small fun first => ?_
    have hmore := mapM_eq_mapError (fun (x : Sign × Term) => map_eq_mapError x.2.value_small (x.1, ·)) more
    refine bind_eq_mapError hmore fun more => ?_
    -- The summands are added up without a look at the text.
    have hsum := onlyFails_foldlM MemoryPlace.onlyFails_add ((.plus, first) :: more)
    refine bind_eq_mapError ?_ fun place => rfl
    exact ((hsum _).imp fun _ he => MeaningError.small_of_isUnquoted he.1).mapError_eq_self.symm

/-- A sentence in small letters stands for the same instruction. -/
theorem Sentence.instruction_small (s : Sentence) :
    s.small.instruction = s.instruction.mapError MeaningError.small := by
  have hdrafts : s.small.operands.mapM (fun p : OperandPhrase => p.phrase.draft.map (·, p.implicit)) =
      (s.operands.mapM fun p : OperandPhrase => p.phrase.draft.map (·, p.implicit)).mapError
        MeaningError.small := by
    rw [small, List.mapM_map]
    exact mapM_eq_mapError (fun p => map_eq_mapError p.phrase.draft_small _) s.operands
  have hmnemonic : Text.lower s.small.mnemonic = Text.lower s.mnemonic := Text.lower_small _
  have hprefixes : prefixMask s.small.prefixes = prefixMask s.prefixes := prefixMask_small _
  cases hread : s.operands.mapM fun p : OperandPhrase => p.phrase.draft.map (·, p.implicit) with
  | error e =>
    rw [hread] at hdrafts
    rw [instruction, hdrafts, instruction, hread]
    rfl
  | ok drafts =>
    rw [hread] at hdrafts
    have hkept : OnlyFails (fun e => e.small = e) s.instruction := by
      refine onlyFails_instruction_of_isUnquoted (fun _ => MeaningError.small_of_isUnquoted) fun p hp => ?_
      obtain ⟨y, -, hy⟩ := exists_of_forall₂ (mapM_eq_ok.mp hread).flip hp
      obtain ⟨d, hd, -⟩ := map_eq_ok.mp hy
      rw [hd]
      exact onlyFails_ok d
    rw [hkept.mapError_eq_self, instruction, hdrafts, hmnemonic, hprefixes, instruction, hread]
    rfl

namespace Instruction

/-- A text in small letters is read as the same instruction, or fails with the same error. -/
theorem read_small (text : String) : read (Text.small text) = (read text).mapError ReadError.small := by
  rw [read, Sentence.parse?_small, read]
  cases Sentence.parse? text with
  | none => rfl
  | some s =>
    dsimp only [Option.map_some]
    rw [s.instruction_small]
    cases s.instruction <;> rfl

/-- A long s is in small letters already, and no other letter becomes one. -/
private theorem longS_mem_small (s : String) : '\u017f' ∈ (Text.small s).toList ↔ '\u017f' ∈ s.toList := by
  have hone (c : Char) : (c.toLower == '\u017f') = (c == '\u017f') :=
    Text.apply_toLower (f := (· == '\u017f')) (by decide) c
  have hiff (c : Char) : c.toLower = '\u017f' ↔ c = '\u017f' := by simpa using hone c
  simp only [Text.toList_small, List.mem_map, hiff, exists_eq_right]

/-- Texts that differ in letter case only stand for the same instruction or fail for the same reason.
They are both refused, unless they have a number that is too long. -/
theorem read_ignores_case {t t' : String} (h : Text.small t = Text.small t') :
    (∀ i, read t = .ok i ↔ read t' = .ok i) ∧
    ((∃ i, read t = .ok i) ∨ ∃ e e', read t = .error e ∧ read t' = .error e' ∧ e.small = e'.small ∧
      ('\u017f' ∉ t.toList →
        e.isRefusal ∧ e'.isRefusal ∨ e.FromLongNumber t ∧ e'.FromLongNumber t')) := by
  have hread : (read t).mapError ReadError.small = (read t').mapError ReadError.small := by
    rw [← read_small, ← read_small, h]
  refine ⟨fun i => ?_, ?_⟩
  · rw [← @mapError_eq_ok _ _ _ (read t) ReadError.small, hread, mapError_eq_ok]
  · cases ht : read t with
    | ok i => exact .inl ⟨i, rfl⟩
    | error e =>
      rw [ht] at hread
      obtain ⟨e', he', hsmall⟩ := mapError_eq_error.mp hread.symm
      have hkind : e'.isRefusal = e.isRefusal := by
        rw [← e'.isRefusal_small, hsmall, e.isRefusal_small]
      refine .inr ⟨e, e', rfl, he', hsmall.symm, fun hletters => ?_⟩
      have hletters' : '\u017f' ∉ t'.toList := by
        rwa [← longS_mem_small, ← h, longS_mem_small]
      by_cases hrefusal : e.isRefusal
      · exact .inl ⟨hrefusal, hkind.trans hrefusal⟩
      · exact .inr ⟨(onlyFails_read_of_letters hletters e ht).resolve_left hrefusal,
          (onlyFails_read_of_letters hletters' e' he').resolve_left (hkind ▸ hrefusal)⟩

/-- The second pair names no register. -/
theorem read_ignores_case_mixed :
    let t := "loCK AdD wOrd PTR [RaX*0B1+0X1f], 0aBH"
    let t' := "lock add word ptr [rax*0b1+0x1f], 0abh"
    let i : Instruction :=
      { mnemonic := "add"
        operands := [
          { kind := .memory, size := 2, index := .register .rax, displacement := 31 },
          { kind := .immediate, size := 2, immediate := 171 }]
        prefixes := ⟨1⟩ }
    (Text.small t = Text.small t' ∧ read t' = .ok i ∧ read t = .ok i) ∧
      Text.small "inc RBq" = Text.small "INC rbQ" ∧ ∃ e e', read "inc RBq" = .error e ∧
        read "INC rbQ" = .error e' ∧ e.small = e'.small ∧ e.isRefusal ∧ e'.isRefusal := by
  intro t t' i
  have hsmall : Text.small t = Text.small t' := by decide
  have hparse : Sentence.parse? t' = some ⟨["lock"], "add",
      [⟨.memory (some "word ptr") none (.scaled "rax" "0b1") [(.plus, .number "0x1f")], false⟩,
        ⟨.number none "0abh", false⟩]⟩ := by
    decide +kernel
  have hread : read t' = .ok i := by
    rw [read, hparse]
    rfl
  have hsmall' : Text.small "inc RBq" = Text.small "INC rbQ" := by decide
  have hparse' : Sentence.parse? "inc RBq" = some ⟨[], "inc", [⟨.register "RBq", false⟩]⟩ := by
    decide
  have hread' : read "inc RBq" = .error (.meaningless "inc RBq" (.unknownRegister "RBq")) := by
    rw [read, hparse']
    rfl
  refine ⟨⟨hsmall, hread, ((read_ignores_case hsmall).1 i).mpr hread⟩, hsmall', ?_⟩
  rcases (read_ignores_case hsmall').2 with ⟨i, hi⟩ | ⟨e, e', he, he', hsame, hkinds⟩
  · cases hread'.symm.trans hi
  · cases hread'.symm.trans he
    exact ⟨_, e', he, he', hsame, (hkinds (by decide)).resolve_right fun h => h.1.not_isRefusal rfl⟩

/-- A text with a number that is too long is not read, and not refused either. -/
theorem overlong_number_not_refused :
    let t := "mov eax," ++ String.ofList overlongOne
    let t' := "MOV EAX," ++ String.ofList overlongOne
    Text.small t = Text.small t' ∧ (∃ e, read t = .error e ∧ ¬e.isRefusal) ∧
      ∃ e, read t' = .error e ∧ ¬e.isRefusal := by
  intro t t'
  have hletters : Text.small "mov eax," = Text.small "MOV EAX," := by decide
  have hsmall : Text.small t = Text.small t' := by
    rw [Text.small_append, hletters, ← Text.small_append]
  have ht := @read_overlongMove "mov" "eax" ⟨by simp [IsName, Char.isAlphanum], by decide⟩
    ⟨by simp [IsName, Char.isAlphanum], by decide⟩ (by decide)
  have ht' := @read_overlongMove "MOV" "EAX" ⟨by simp [IsName, Char.isAlphanum], by decide⟩
    ⟨by simp [IsName, Char.isAlphanum], by decide⟩ (by decide)
  exact ⟨hsmall, ⟨_, ht, Bool.false_ne_true⟩, _, ht', Bool.false_ne_true⟩

end Instruction
end AsmListing
