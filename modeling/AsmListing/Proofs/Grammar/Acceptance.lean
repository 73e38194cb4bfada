import Mathlib
import AsmListing.Proofs.Grammar.Choice
import AsmListing.Proofs.Reader.Words
import AsmListing.Reader.Program

/-! The texts that have the form of an instruction. A text is read as the sentence from which its
lexemes derive, where each lexeme is the one that the grammar prefers at its place. -/
namespace AsmListing

namespace Lexeme

/-- The lexemes into which a text is cut, after terminals that have been read. Gaps may stand before
and behind each of them. -/
inductive Cut : List Terminal → List Char → List Lexeme → Prop
  | done {read : List Terminal} {gaps : List Char} (hgaps : ∀ c ∈ gaps, isGap c) : Cut read gaps []
  | take {read : List Terminal} {gaps w rest : List Char} {t : Terminal} {ls : List Lexeme}
      (hgaps : ∀ c ∈ gaps, isGap c) (htaken : t.IsTaken read (w ++ rest) w.length)
      (hrest : Cut (read ++ [t]) rest ls) : Cut read (gaps ++ (w ++ rest)) (⟨t, String.ofList w⟩ :: ls)

variable {read : List Terminal} {place : Place} {cs : List Char} {ls : List Lexeme}

private theorem Cut.gap {c : Char} (hc : isGap c) (h : Cut read cs ls) : Cut read (c :: cs) ls := by
  cases h with
  | done hgaps => exact .done (List.forall_mem_cons.mpr ⟨hc, hgaps⟩)
  | take hgaps htaken hrest =>
    rw [← List.cons_append]
    exact .take (List.forall_mem_cons.mpr ⟨hc, hgaps⟩) htaken hrest

private theorem scan_gaps {gaps : List Char} (hgaps : ∀ c ∈ gaps, isGap c) :
    scan place 0 (gaps ++ cs) = scan place 0 cs := by
  induction gaps with
  | nil => rfl
  | cons c gaps ih =>
    obtain ⟨hc, hgaps⟩ := List.forall_mem_cons.mp hgaps
    rw [List.cons_append, scan, if_pos hc, ih hgaps]

theorem walk?_take {q : Place} {t : Terminal} (hread : Place.start.walk? read = some place)
    (hnext : (t, q) ∈ place.next) : Place.start.walk? (read ++ [t]) = some q := by
  rw [Place.walk?_append, hread, Option.bind_some, Place.walk?, Place.lookup_next_eq_some.mpr hnext]
  rfl

private theorem cut_of_scan (hread : Place.start.walk? read = some place) {left : Nat}
    (h : scan place left cs = some ls) : Cut read (cs.drop left) ls ∧ ls ∈ place.language := by
  -- Some characters may still belong to the lexeme before, so the induction is for any number of them.
  induction cs generalizing read place left ls with
  | nil =>
    rw [scan] at h
    split at h
    · next haccepts =>
      cases h
      rw [List.drop_nil]
      exact ⟨.done (by simp), haccepts⟩
    · cases h
  | cons c cs ih =>
    cases left with
    | succ left => exact ih hread h
    | zero =>
      rw [scan] at h
      split at h
      · next hc =>
        obtain ⟨hcut, hls⟩ := ih hread h
        exact ⟨hcut.gap hc, hls⟩
      · split at h
        · next t q n hfound =>
          obtain ⟨ms, hms, rfl⟩ := Option.map_eq_some_iff.mp h
          obtain ⟨htaken, hnext⟩ := (Place.read?_eq_some hread).mp hfound
          obtain ⟨hcut, hmem⟩ := ih (walk?_take hread hnext) hms
          refine ⟨?_, Place.cons_mem_language.mpr ⟨q, hnext, hmem⟩⟩
          have hpos := htaken.pos
          obtain ⟨w, rest, hcs, rfl, -⟩ := Pattern.exists_match htaken.matched
          have hdrop : cs.drop (w.length - 1) = rest := by
            rw [← List.drop_succ_cons (a := c), Nat.sub_add_cancel hpos, hcs, List.drop_left]
          rw [hdrop] at hcut
          rw [hcs] at htaken
          rw [List.drop_zero, hcs, List.take_left]
          exact Cut.take (fun _ h => absurd h List.not_mem_nil) htaken hcut
        · cases h

private theorem scan_of_cut (h : Cut read cs ls) (hread : Place.start.walk? read = some place)
    (hls : ls ∈ place.language) : scan place 0 cs = some ls := by
  induction h generalizing place with
  | @done read gaps hgaps =>
    have haccepts : place.accepts := hls
    rw [← List.append_nil gaps, scan_gaps hgaps, scan, if_pos haccepts]
  | @take read gaps w rest t ls hgaps htaken hrest ih =>
    obtain ⟨q, hnext, hms⟩ := Place.cons_mem_language.mp hls
    have hfound := (Place.read?_eq_some hread).mpr ⟨htaken, hnext⟩
    have hlexeme := Reads.lexeme htaken.head_not_gap hfound
    rw [scan_gaps hgaps, hlexeme, ih (walk?_take hread hnext) hms]
    rfl

/-- The scanner finds the lexemes into which a text is cut, if some sentence has them. -/
theorem scan_start_eq_some :
    scan .start 0 cs = some ls ↔ Cut [] cs ls ∧ ∃ s : Sentence, s.Derives ls := by
  rw [← mem_derivable, ← Place.start_language]
  exact ⟨cut_of_scan rfl, fun h => scan_of_cut h.1 rfl h.2⟩

/-- The text, without its outer blanks, is cut into lexemes whose terminals form a sentence. -/
def IsSplit (text : String) (ls : List Lexeme) : Prop :=
  Cut [] (Text.trim text.toList) ls ∧ IsSentence (ls.map terminal)

theorem isSplit_iff {text : String} :
    IsSplit text ls ↔ scan .start 0 (Text.trim text.toList) = some ls := by
  rw [IsSplit, Place.isSentence_map_iff, scan_start_eq_some]

theorem IsSplit.unique {text : String} {ms : List Lexeme} (h : IsSplit text ls) (h' : IsSplit text ms) :
    ls = ms := by
  rw [isSplit_iff] at h h'
  exact Option.some.inj (h.symm.trans h')

end Lexeme

namespace Sentence
open Lexeme (IsSplit isSplit_iff)

/-- A text is read as the sentence from which its lexemes derive. -/
theorem parse?_eq_some {text : String} {s : Sentence} :
    parse? text = some s ↔ ∃ ls, IsSplit text ls ∧ s.Derives ls := by
  rw [parse?, Option.bind_eq_some_iff]
  simp only [isSplit_iff, ofLexemes?_eq_some]

theorem exists_parse?_iff {text : String} : (∃ s, parse? text = some s) ↔ ∃ ls, IsSplit text ls := by
  simp only [parse?_eq_some]
  constructor
  · rintro ⟨s, ls, hls, -⟩
    exact ⟨ls, hls⟩
  · rintro ⟨ls, hls⟩
    obtain ⟨s, hs⟩ := Place.isSentence_map_iff.mp hls.2
    exact ⟨s, ls, hls, hs⟩

/-- A text is read just if it is cut into lexemes whose terminals form a sentence. These lexemes and
their derivation are then the only ones, and the instruction is built from them. Every other text is
refused as malformed. -/
theorem parse?_iff_derives (text : String) :
    ((∃ s, parse? text = some s) ↔ ∃ ls, IsSplit text ls) ∧
    (∀ ls, IsSplit text ls → (∀ ms, IsSplit text ms → ms = ls) ∧
      ∃ s : Sentence, (∀ s' : Sentence, s'.Derives ls ↔ s' = s) ∧ parse? text = some s ∧
        Instruction.read text = s.instruction.mapError (.meaningless text)) ∧
    (Instruction.read text = .error (.malformed text) ↔ ¬ ∃ ls, IsSplit text ls) := by
  refine ⟨exists_parse?_iff, fun ls hls => ⟨fun ms hms => hms.unique hls, ?_⟩, ?_⟩
  · obtain ⟨s, hs⟩ := Place.isSentence_map_iff.mp hls.2
    have hparse : parse? text = some s := parse?_eq_some.mpr ⟨ls, hls, hs⟩
    refine ⟨s, fun s' => ?_, hparse, by rw [Instruction.read, hparse]⟩
    rw [← ofLexemes?_eq_some, ofLexemes?_eq_some.mpr hs, Option.some.injEq, eq_comm]
  · rw [← exists_parse?_iff, Instruction.read]
    cases parse? text with
    | none => simp
    | some s =>
      have hne : s.instruction.mapError (ReadError.meaningless text) ≠ .error (.malformed text) := by
        cases s.instruction <;> simp [Except.mapError]
      exact iff_of_false hne fun h => h ⟨s, rfl⟩

/-- The words for prefixes, sizes and short branches are names where the grammar has no place for them:
here as the mnemonic, as a segment and between brackets. -/
theorem parse?_iff_derives_keywords_as_names :
    let text := " rep short BYTE\tptr rep:[short*4+byte-8], <short 10h>"
    let s : Sentence := ⟨["rep"], "short",
      [⟨.memory (some "BYTE\tptr") (some "rep") (.scaled "short" "4")
          [(.plus, .register "byte"), (.minus, .number "8")], false⟩,
        ⟨.shortBranch "10h", true⟩]⟩
    ∃ ls, IsSplit text ls ∧ (∀ ms, IsSplit text ms → ms = ls) ∧ (∀ s' : Sentence, s'.Derives ls ↔ s' = s) ∧
      Instruction.read text = s.instruction.mapError (.meaningless text) := by
  intro text s
  have hparse : parse? text = some s := by decide
  obtain ⟨hread, hsplit, -⟩ := parse?_iff_derives text
  obtain ⟨ls, hls⟩ := hread.mp ⟨s, hparse⟩
  obtain ⟨hunique, s', hderives, hparse', hinstruction⟩ := hsplit ls hls
  cases Option.some.inj (hparse'.symm.trans hparse)
  exact ⟨ls, hls, hunique, hderives, hinstruction⟩

end Sentence
end AsmListing
