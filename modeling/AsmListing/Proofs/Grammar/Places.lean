import Mathlib
import AsmListing.Proofs.Grammar.Derivation

/-! The places of an instruction as the states of an automaton. Its language is that of the grammar:
the places satisfy a system of linear equations between languages, which has one solution. -/
namespace AsmListing
open Computability

namespace Lexeme

/-- A lexeme of the terminal by itself. -/
def single (t : Terminal) : Language Lexeme := {ls | ∃ text, ls = [⟨t, text⟩]}

/-- What derives from some tree. -/
def derivable {α : Type} (derives : α → List Lexeme → Prop) : Language Lexeme :=
  {ls | ∃ x, derives x ls}

variable {t : Terminal} {m : Language Lexeme} {l : Lexeme} {ls : List Lexeme}

theorem mem_single : ls ∈ single t ↔ ∃ text, ls = [⟨t, text⟩] := Iff.rfl

theorem mem_derivable {α : Type} {derives : α → List Lexeme → Prop} :
    ls ∈ derivable derives ↔ ∃ x, derives x ls := Iff.rfl

theorem mem_single_mul : ls ∈ single t * m ↔ ∃ text rest, ls = ⟨t, text⟩ :: rest ∧ rest ∈ m := by
  rw [Language.mem_mul]
  constructor
  · rintro ⟨_, ⟨text, rfl⟩, rest, hrest, rfl⟩
    exact ⟨text, rest, rfl, hrest⟩
  · rintro ⟨text, rest, rfl, hrest⟩
    exact ⟨_, ⟨text, rfl⟩, rest, hrest, rfl⟩

theorem cons_mem_single_mul : l :: ls ∈ single t * m ↔ l.terminal = t ∧ ls ∈ m := by
  rw [mem_single_mul]
  constructor
  · rintro ⟨text, rest, ⟨⟩, hrest⟩
    exact ⟨rfl, hrest⟩
  · rintro ⟨rfl, hls⟩
    exact ⟨l.text, ls, rfl, hls⟩

theorem nil_notMem_single_mul : [] ∉ single t * m := by
  rw [mem_single_mul]
  rintro ⟨text, rest, ⟨⟩, -⟩

end Lexeme

open Lexeme (single derivable mem_single mem_derivable mem_single_mul)

namespace Place

/-- The place that terminals lead to. -/
def walk? (place : Place) : List Terminal → Option Place
  | [] => some place
  | t :: ts => (place.next.lookup t).bind (walk? · ts)

/-- The lexemes that complete an instruction from a place on. -/
def language (place : Place) : Language Lexeme :=
  {ls | (place.walk? (ls.map Lexeme.terminal)).any accepts}

variable {place : Place} {t : Terminal} {ls : List Lexeme}

/-- No terminal stands twice among those that can follow. -/
theorem lookup_next_eq_some {q : Place} : place.next.lookup t = some q ↔ (t, q) ∈ place.next := by
  constructor
  · intro h
    obtain ⟨xs, ys, hnext, -⟩ := List.lookup_eq_some_iff.mp h
    simp [hnext]
  · have hall : ∀ x ∈ place.next, place.next.lookup x.1 = some x.2 := by
      cases place with
      | start | afterMnemonic | afterComma | afterLess => decide
      | _ angle => cases angle <;> decide
    exact fun h => hall (t, q) h

theorem mem_language :
    ls ∈ place.language ↔ (place.walk? (ls.map Lexeme.terminal)).any accepts := Iff.rfl

theorem nil_mem_language : [] ∈ place.language ↔ place.accepts := Iff.rfl

theorem cons_mem_language {l : Lexeme} :
    l :: ls ∈ place.language ↔ ∃ q, (l.terminal, q) ∈ place.next ∧ ls ∈ q.language := by
  simp only [← lookup_next_eq_some]
  rw [mem_language, List.map_cons, walk?]
  cases place.next.lookup l.terminal with
  | none => simp
  | some q => simp [mem_language]

/-- The lexemes that start with one of some terminals and go on from the place behind it. -/
def through : List (Terminal × Place) → Language Lexeme
  | [] => 0
  | (t, q) :: xs => single t * q.language + through xs

private theorem mem_through {xs : List (Terminal × Place)} :
    ls ∈ through xs ↔ ∃ x ∈ xs, ls ∈ single x.1 * x.2.language := by
  induction xs with
  | nil => simp [through]
  | cons x xs ih =>
    rw [through, Language.mem_add, ih]
    simp

/-- What completes an instruction starts with one of the terminals that can follow. -/
theorem language_eq (place : Place) :
    place.language = through place.next + if place.accepts then 1 else 0 := by
  ext ls
  rw [Language.mem_add, mem_through]
  cases ls with
  | nil =>
    simp only [nil_mem_language, Lexeme.nil_notMem_single_mul]
    cases place.accepts <;> simp
  | cons l ls =>
    simp only [cons_mem_language, Lexeme.cons_mem_single_mul]
    cases place.accepts <;> simp

private theorem language_of_refuses (h : place.accepts = false) :
    place.language = through place.next := by
  simp only [language_eq place, h, Bool.false_eq_true, reduceIte, add_zero]

private theorem language_of_one {q : Place} (hnext : place.next = [(t, q)]) (h : place.accepts = false) :
    place.language = single t * q.language := by
  rw [language_of_refuses h, hnext, through, through, add_zero]

private theorem through_append (xs ys : List (Terminal × Place)) :
    through (xs ++ ys) = through xs + through ys := by
  induction xs with
  | nil => rw [List.nil_append, through, zero_add]
  | cons x xs ih => rw [List.cons_append, through, through, ih, add_assoc]

end Place

/-! ### The languages of the rules -/

private theorem terms_eq : derivable Term.Derives =
    single .name * (single .star * single .number) + single .name + single .number := by
  ext ls
  simp only [Language.mem_add, Language.mem_mul, mem_single, mem_derivable]
  constructor
  · rintro ⟨t, h⟩
    cases h with
    | scaled r star k => exact .inl (.inl ⟨_, ⟨r, rfl⟩, _, ⟨_, ⟨star, rfl⟩, _, ⟨k, rfl⟩, rfl⟩, rfl⟩)
    | register r => exact .inl (.inr ⟨r, rfl⟩)
    | number n => exact .inr ⟨n, rfl⟩
  · rintro ((⟨_, ⟨r, rfl⟩, _, ⟨_, ⟨star, rfl⟩, _, ⟨k, rfl⟩, rfl⟩, rfl⟩ | ⟨r, rfl⟩) | ⟨n, rfl⟩)
    · exact ⟨_, .scaled r star k⟩
    · exact ⟨_, .register r⟩
    · exact ⟨_, .number n⟩

private theorem more_eq : derivable Phrase.MoreDerive =
    single .sign * derivable Term.Derives * derivable Phrase.MoreDerive + 1 := by
  ext ls
  simp only [Language.mem_add, mul_assoc, Language.mem_mul, mem_derivable, Language.mem_one]
  constructor
  · rintro ⟨more, h⟩
    cases h with
    | nil => exact .inr rfl
    | cons s first rest => exact .inl ⟨_, ⟨s, rfl⟩, _, ⟨_, ⟨_, first⟩, _, ⟨_, rest⟩, rfl⟩, rfl⟩
  · rintro (⟨_, ⟨s, rfl⟩, _, ⟨_, ⟨t, ht⟩, _, ⟨more, hms⟩, rfl⟩, rfl⟩ | rfl)
    · have hcons := Phrase.MoreDerive.cons s ht hms
      exact ⟨_, hcons⟩
    · exact ⟨_, .nil⟩

private theorem sizes_eq : derivable Phrase.SizeDerives = single .sizeWord + 1 := by
  ext ls
  simp only [Language.mem_add, mem_single, mem_derivable, Language.mem_one]
  constructor
  · rintro ⟨size, h⟩
    cases h with
    | none => exact .inr rfl
    | some s => exact .inl ⟨s, rfl⟩
  · rintro (⟨s, rfl⟩ | rfl)
    · exact ⟨_, .some s⟩
    · exact ⟨_, .none⟩

private theorem segments_eq : derivable Phrase.SegmentDerives = single .name * single .colon + 1 := by
  ext ls
  simp only [Language.mem_add, Language.mem_mul, mem_single, mem_derivable, Language.mem_one]
  constructor
  · rintro ⟨segment, h⟩
    cases h with
    | none => exact .inr rfl
    | some s colon => exact .inl ⟨_, ⟨s, rfl⟩, _, ⟨colon, rfl⟩, rfl⟩
  · rintro (⟨_, ⟨s, rfl⟩, _, ⟨colon, rfl⟩, rfl⟩ | rfl)
    · exact ⟨_, .some s colon⟩
    · exact ⟨_, .none⟩

private theorem phrases_eq : derivable Phrase.Derives =
    single .name + (single .number + single .sign * single .number) +
      single .shortWord * single .number + single .decorator +
        derivable Phrase.SizeDerives * (derivable Phrase.SegmentDerives *
          (single .openBracket * (derivable Term.Derives * (derivable Phrase.MoreDerive *
            single .closeBracket)))) := by
  ext ls
  simp only [Language.mem_add, Language.mem_mul, mem_single, mem_derivable]
  constructor
  · rintro ⟨p, h⟩
    cases h with
    | register r => exact .inl (.inl (.inl (.inl ⟨r, rfl⟩)))
    | number n => exact .inl (.inl (.inl (.inr (.inl ⟨n, rfl⟩))))
    | signed s n => exact .inl (.inl (.inl (.inr (.inr ⟨_, ⟨s, rfl⟩, _, ⟨n, rfl⟩, rfl⟩))))
    | shortBranch w n => exact .inl (.inl (.inr ⟨_, ⟨w, rfl⟩, _, ⟨n, rfl⟩, rfl⟩))
    | decorator d => exact .inl (.inr ⟨d, rfl⟩)
    | memory o c hsize hsegment hfirst hmore =>
      exact .inr ⟨_, ⟨_, hsize⟩, _, ⟨_, ⟨_, hsegment⟩, _, ⟨_, ⟨o, rfl⟩, _, ⟨_, ⟨_, hfirst⟩, _,
        ⟨_, ⟨_, hmore⟩, _, ⟨c, rfl⟩, rfl⟩, rfl⟩, rfl⟩, rfl⟩, rfl⟩
  · rintro ((((⟨r, rfl⟩ | ⟨n, rfl⟩ | ⟨_, ⟨s, rfl⟩, _, ⟨n, rfl⟩, rfl⟩) |
      ⟨_, ⟨w, rfl⟩, _, ⟨n, rfl⟩, rfl⟩) | ⟨d, rfl⟩) | hmemory)
    · exact ⟨_, .register r⟩
    · exact ⟨_, .number n⟩
    · exact ⟨_, .signed s n⟩
    · exact ⟨_, .shortBranch w n⟩
    · exact ⟨_, .decorator d⟩
    · obtain ⟨_, ⟨_, hsize⟩, _, ⟨_, ⟨_, hsegment⟩, _, ⟨_, ⟨o, rfl⟩, _, ⟨_, ⟨_, hfirst⟩, _,
        ⟨_, ⟨_, hmore⟩, _, ⟨c, rfl⟩, rfl⟩, rfl⟩, rfl⟩, rfl⟩, rfl⟩ := hmemory
      exact ⟨_, .memory o c hsize hsegment hfirst hmore⟩

private theorem operand_eq : derivable OperandPhrase.Derives =
    single .less * (derivable Phrase.Derives * single .greater) + derivable Phrase.Derives := by
  ext ls
  simp only [Language.mem_add, Language.mem_mul, mem_single, mem_derivable]
  constructor
  · rintro ⟨p, h⟩
    cases h with
    | implicit l g h => exact .inl ⟨_, ⟨l, rfl⟩, _, ⟨_, ⟨_, h⟩, _, ⟨g, rfl⟩, rfl⟩, rfl⟩
    | explicit h => exact .inr ⟨_, h⟩
  · rintro (⟨_, ⟨l, rfl⟩, _, ⟨_, ⟨p, h⟩, _, ⟨g, rfl⟩, rfl⟩, rfl⟩ | ⟨p, h⟩)
    · exact ⟨_, .implicit l g h⟩
    · exact ⟨_, .explicit h⟩

private theorem operands_eq : derivable Sentence.OperandsDerive =
    derivable OperandPhrase.Derives * single .comma * derivable Sentence.OperandsDerive +
      derivable OperandPhrase.Derives := by
  ext ls
  simp only [Language.mem_add, mul_assoc, Language.mem_mul, mem_derivable]
  constructor
  · rintro ⟨ps, h⟩
    cases h with
    | last h => exact .inr ⟨_, h⟩
    | cons c first rest => exact .inl ⟨_, ⟨_, first⟩, _, ⟨_, ⟨c, rfl⟩, _, ⟨_, rest⟩, rfl⟩, rfl⟩
  · rintro (⟨_, ⟨_, first⟩, _, ⟨_, ⟨c, rfl⟩, _, ⟨_, rest⟩, rfl⟩, rfl⟩ | ⟨p, h⟩)
    · exact ⟨_, .cons c first rest⟩
    · exact ⟨_, .last h⟩

/-- The prefixes in front of a mnemonic. -/
private def prefixRun : Language Lexeme :=
  derivable fun (words : List String) ls => ls = words.map (⟨.prefixWord, ·⟩)

private theorem prefixRun_eq : prefixRun = single .prefixWord * prefixRun + 1 := by
  ext ls
  simp only [prefixRun, Language.mem_add, Language.mem_mul, mem_derivable, Language.mem_one]
  constructor
  · rintro ⟨words, rfl⟩
    cases words with
    | nil => exact .inr rfl
    | cons w words => exact .inl ⟨_, ⟨w, rfl⟩, _, ⟨words, rfl⟩, rfl⟩
  · rintro (⟨_, ⟨w, rfl⟩, _, ⟨words, rfl⟩, rfl⟩ | rfl)
    · exact ⟨w :: words, rfl⟩
    · exact ⟨[], rfl⟩

private theorem sentences_eq : derivable Sentence.Derives =
    prefixRun * (single .name * (derivable Sentence.OperandsDerive + 1)) := by
  ext ls
  simp only [prefixRun, Language.mem_add, Language.mem_mul, mem_derivable, Language.mem_one]
  constructor
  · rintro ⟨s, h⟩
    cases h with
    | bare words m => exact ⟨_, ⟨words, rfl⟩, _, ⟨_, ⟨m, rfl⟩, _, .inr rfl, rfl⟩, rfl⟩
    | operands words m h => exact ⟨_, ⟨words, rfl⟩, _, ⟨_, ⟨m, rfl⟩, _, .inl ⟨_, h⟩, rfl⟩, rfl⟩
  · rintro ⟨_, ⟨words, rfl⟩, _, ⟨_, ⟨m, rfl⟩, _, ⟨ps, h⟩ | rfl, rfl⟩, rfl⟩
    · exact ⟨_, .operands words m h⟩
    · exact ⟨_, .bare words m⟩

/-! ### The languages of the places -/

/-- A language that is a repetition of one part before another has one solution of its equation. -/
private theorem eq_mul_of_repeats {m l k n : Language Lexeme} (hm : [] ∉ m) (hk : k = m * k + 1)
    (hl : l = m * l + n) : l = k * n := by
  rw [(Language.self_eq_mul_add_iff hm).mp hl, (Language.self_eq_mul_add_iff hm).mp hk, mul_one]

namespace Place
variable (angle : Bool)

private theorem afterOperand_true : (afterOperand true).language =
    single .greater * (afterOperand false).language :=
  language_of_one rfl rfl

private theorem afterOperand_false : (afterOperand false).language =
    single .comma * afterComma.language + 1 := by
  rw [language_eq]
  simp only [next, operandEnds, through, accepts, add_zero, reduceIte, Bool.false_eq_true]

private theorem afterWord_eq : (afterWord angle).language =
    single .colon * (beforeBracket angle).language + (afterOperand angle).language := by
  have haccepts : (afterWord angle).accepts = (afterOperand angle).accepts := by
    cases angle <;> rfl
  rw [language_eq (afterWord angle), language_eq (afterOperand angle), haccepts, ← add_assoc]
  rfl

private theorem afterTermName_eq : (afterTermName angle).language =
    single .star * (single .number * (afterTerm angle).language) + (afterTerm angle).language := by
  have hstar : (afterStar angle).language = single .number * (afterTerm angle).language :=
    language_of_one rfl rfl
  have hterm : (afterTerm angle).language = through (termEnds angle) := language_of_refuses rfl
  rw [← hstar, language_of_refuses rfl, next, through, hterm]

private theorem beforeTerm_eq : (beforeTerm angle).language =
    derivable Term.Derives * (afterTerm angle).language := by
  rw [language_of_refuses rfl, terms_eq]
  simp only [next, through, add_zero, afterTermName_eq, mul_add, add_mul, mul_assoc]

private theorem afterTerm_eq : (afterTerm angle).language =
    derivable Phrase.MoreDerive * (single .closeBracket * (afterOperand angle).language) := by
  refine eq_mul_of_repeats Lexeme.nil_notMem_single_mul more_eq ?_
  rw [mul_assoc, ← beforeTerm_eq, language_of_refuses rfl, next, termEnds, through, through, through,
    add_zero]

private theorem beforeBracket_eq_one : (beforeBracket angle).language =
    single .openBracket * (beforeTerm angle).language :=
  language_of_one rfl rfl

private theorem beforeBracket_eq : (beforeBracket angle).language =
    single .openBracket * (derivable Term.Derives * (derivable Phrase.MoreDerive *
      (single .closeBracket * (afterOperand angle).language))) := by
  rw [← afterTerm_eq, ← beforeTerm_eq, beforeBracket_eq_one]

private theorem afterSize_eq : (afterSize angle).language =
    derivable Phrase.SegmentDerives * (beforeBracket angle).language := by
  have hsegment : (afterSegment angle).language = single .colon * (beforeBracket angle).language :=
    language_of_one rfl rfl
  rw [segments_eq, add_mul, one_mul, mul_assoc, ← hsegment, beforeBracket_eq_one,
    language_of_refuses rfl, next, through, through, through, add_zero]

/-- The operand that starts at a place is one of the grammar. -/
private theorem operandStarts_eq : through (operandStarts angle) =
    derivable Phrase.Derives * (afterOperand angle).language := by
  have hnumber : (beforeNumber angle).language = single .number * (afterOperand angle).language :=
    language_of_one rfl rfl
  have hmemory : derivable Phrase.SizeDerives * (derivable Phrase.SegmentDerives *
      (single .openBracket * (derivable Term.Derives * (derivable Phrase.MoreDerive *
        single .closeBracket)))) * (afterOperand angle).language =
      single .sizeWord * (afterSize angle).language +
        (single .name * (single .colon * (beforeBracket angle).language) +
          single .openBracket * (beforeTerm angle).language) := by
    rw [← beforeBracket_eq_one, afterSize_eq, beforeBracket_eq, sizes_eq, segments_eq]
    simp only [mul_assoc, add_mul, mul_add, one_mul]
    exact add_add_add_comm _ _ _ _
  rw [phrases_eq, add_mul, hmemory]
  simp only [operandStarts, through, add_zero, hnumber, afterWord_eq, add_mul, mul_add, mul_assoc]
  abel

private theorem afterComma_eq : afterComma.language =
    derivable OperandPhrase.Derives * (afterOperand false).language := by
  have hless : afterLess.language =
      derivable Phrase.Derives * (single .greater * (afterOperand false).language) := by
    rw [← afterOperand_true, ← operandStarts_eq]
    exact language_of_refuses rfl
  rw [language_of_refuses rfl, next, through_append, operandStarts_eq, through, through, hless,
    operand_eq, add_mul, add_zero, add_comm]
  simp only [mul_assoc]

/-- Operands and commas in turn. -/
private theorem operandList_eq : afterComma.language = derivable Sentence.OperandsDerive := by
  have hne : [] ∉ derivable OperandPhrase.Derives * single .comma := by
    rw [Language.mem_mul]
    rintro ⟨as, -, _, ⟨text, rfl⟩, h⟩
    simp at h
  -- Both languages solve the same equation, which has one solution.
  rw [(Language.self_eq_mul_add_iff hne).mp operands_eq, ← Language.self_eq_mul_add_iff hne, mul_assoc]
  nth_rewrite 1 [afterComma_eq]
  rw [afterOperand_false, mul_add, mul_one]

/-- The automaton accepts the sentences of the grammar. -/
theorem start_language : start.language = derivable Sentence.Derives := by
  have hmnemonic : afterMnemonic.language = derivable Sentence.OperandsDerive + 1 := by
    rw [← operandList_eq, language_eq, language_of_refuses rfl]
    rfl
  rw [sentences_eq, ← hmnemonic]
  refine eq_mul_of_repeats ?_ prefixRun_eq ?_
  · rw [mem_single]
    simp
  · nth_rewrite 1 [language_of_refuses rfl]
    rw [next, through, through, through, add_zero]

end Place
end AsmListing
