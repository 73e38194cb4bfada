import Mathlib
import AsmListing.Instruction
import AsmListing.Proofs.Reader.Phrases
import AsmListing.Proofs.Text.Trim

/-! How instructions without angle brackets are spelled. The parts of such an instruction are found
again in its spelling. -/
namespace AsmListing

namespace Text

theorem isBlank_of_isAlphanum {c : Char} (h : c.isAlphanum) : isBlank c = false :=
  forall_ascii (P := fun c => c.isAlphanum → isBlank c = false) (by decide)
    (toNat_lt_of_isAlphanum h) h

end Text

namespace Phrase

/-- Operands with commas between them. -/
def listSpelling : List Phrase → List Char
  | [] => []
  | [p] => p.spelling
  | p :: ps => p.spelling ++ ',' :: listSpelling ps

def listLexemes : List Phrase → List Lexeme
  | [] => []
  | [p] => p.lexemes
  | p :: ps => p.lexemes ++ ⟨.comma, ","⟩ :: listLexemes ps

theorem scan_listSpelling {ps : List Phrase} (hne : ps ≠ []) (h : ∀ p ∈ ps, p.Spelled) {place : Place}
    (hplace : place.next = Place.afterComma.next) :
    Lexeme.scan place 0 (listSpelling ps) = some (listLexemes ps) := by
  induction ps generalizing place with
  | nil => exact absurd rfl hne
  | cons p ps ih =>
    have hp := h p List.mem_cons_self
    cases ps with
    | nil =>
      have hreads := @Phrase.reads p hp place hplace [] rfl
      rw [List.append_nil, Reads] at hreads
      rw [listSpelling, hreads, listLexemes]
      cases p <;> simp [after, Lexeme.scan, Place.accepts]
    | cons q qs =>
      have hreads := @Phrase.reads p hp place hplace (',' :: listSpelling (q :: qs)) rfl
      have hcomma : Reads p.after (',' :: listSpelling (q :: qs)) [⟨.comma, ","⟩] .afterComma
          (listSpelling (q :: qs)) := by
        cases p <;> exact Reads.char ',' rfl rfl
      have hrest := ih (by simp) (fun r hr => h r (List.mem_cons_of_mem p hr))
        (rfl : Place.afterComma.next = _)
      have hall := hreads.trans hcomma
      rw [Reads, hrest] at hall
      simpa [listSpelling, listLexemes] using hall

/-- The spelling of operands does not end in a blank. -/
theorem getLast?_spelling {p : Phrase} (h : p.Spelled) :
    ∃ c, p.spelling.getLast? = some c ∧ Text.isBlank c = false := by
  have hnumeral {text : String} (ht : IsNumeral text) :
      ∃ c, text.toList.getLast? = some c ∧ Text.isBlank c = false := by
    have hne : text.toList ≠ [] := fun hnil => by simpa [hnil] using ht.head_isDigit
    exact ⟨_, List.getLast?_eq_some_getLast hne,
      Text.isBlank_of_isAlphanum (ht.isAlphanum _ (List.getLast_mem hne))⟩
  cases p with
  | register name =>
    have hne : name.toList ≠ [] := fun hnil => by simpa [hnil] using h.1.2
    exact ⟨_, List.getLast?_eq_some_getLast hne,
      Text.isBlank_of_isAlphanum (h.1.1 _ (List.getLast_mem hne))⟩
  | number sign text =>
    obtain ⟨c, hc, hblank⟩ := hnumeral h
    refine ⟨c, ?_, hblank⟩
    cases sign <;> simp [spelling, hc, List.getLast?_cons]
  | shortBranch text =>
    obtain ⟨c, hc, hblank⟩ := hnumeral h
    exact ⟨c, by simp [spelling, hc, List.getLast?_cons], hblank⟩
  | decorator text =>
    simp only [Spelled, Terminal.decorators, List.mem_cons, List.not_mem_nil, or_false] at h
    rcases h with rfl | rfl | rfl | rfl <;> exact ⟨'\x7d', rfl, by decide⟩
  | memory size segment first more =>
    exact ⟨']', by simp [spelling, List.getLast?_append, List.getLast?_cons], by decide⟩

theorem getLast?_listSpelling {ps : List Phrase} (hne : ps ≠ []) (h : ∀ p ∈ ps, p.Spelled) :
    ∃ c, (listSpelling ps).getLast? = some c ∧ Text.isBlank c = false := by
  induction ps with
  | nil => exact absurd rfl hne
  | cons p ps ih =>
    cases ps with
    | nil => exact getLast?_spelling (h p List.mem_cons_self)
    | cons q qs =>
      obtain ⟨c, hc, hblank⟩ := ih (by simp) fun r hr => h r (List.mem_cons_of_mem p hr)
      exact ⟨c, by simp [listSpelling, List.getLast?_append, List.getLast?_cons, hc], hblank⟩

end Phrase

/-- A mnemonic that the reader does not take for a prefix. -/
def IsMnemonic (s : String) : Prop :=
  IsName s ∧ Terminal.isOneOf Terminal.prefixWords s.toList = false

namespace Sentence

/-- The parts of an instruction without angle brackets. -/
def plain (prefixes : List Prefix) (mnemonic : String) (operands : List Phrase) : Sentence :=
  ⟨prefixes.map Prefix.word, mnemonic, operands.map (⟨·, false⟩)⟩

def operandsSpelling (ps : List Phrase) : List Char :=
  if ps = [] then [] else ' ' :: Phrase.listSpelling ps

def spelling (prefixes : List Prefix) (mnemonic : String) (operands : List Phrase) : List Char :=
  prefixes.flatMap (fun p => p.word.toList ++ [' ']) ++ (mnemonic.toList ++ operandsSpelling operands)

def lexemes (prefixes : List Prefix) (mnemonic : String) (operands : List Phrase) : List Lexeme :=
  prefixes.map (fun p => ⟨.prefixWord, p.word⟩) ++ ⟨.name, mnemonic⟩ :: Phrase.listLexemes operands

theorem reads_prefixes (prefixes : List Prefix) (rest : List Char) :
    Reads .start (prefixes.flatMap (fun p => p.word.toList ++ [' ']) ++ rest)
      (prefixes.map fun p => ⟨.prefixWord, p.word⟩) .start rest := by
  induction prefixes with
  | nil => simp [Reads]
  | cons p ps ih =>
    have hread (cs : List Char) : Place.start.read? (p.word.toList ++ ' ' :: cs) =
        some (.prefixWord, .start, p.word.toList.length) := by
      cases p <;> rfl
    have hgap : p.word.toList.head?.any isGap = false := by
      cases p <;> rfl
    simpa using (Reads.lexeme hgap (hread _)).trans ((Reads.gap _ _).trans ih)

theorem reads_mnemonic {mnemonic : String} (h : IsMnemonic mnemonic) {rest : List Char}
    (hstop : Terminal.Stops rest) :
    Reads .start (mnemonic.toList ++ rest) [⟨.name, mnemonic⟩] .afterMnemonic rest := by
  have hmark : Terminal.length? .prefixWord (mnemonic.toList ++ rest) = none := by
    rw [Terminal.length?, Terminal.wordLength?_append h.1.1 hstop, h.2, if_neg (by decide)]
  have hread : Place.start.read? (mnemonic.toList ++ rest) =
      some (.name, .afterMnemonic, mnemonic.toList.length) := by
    simp [Place.read?, Place.next, hmark, Terminal.length?_name_append h.1.1 h.1.2 hstop]
  simpa using Reads.lexeme (Terminal.head_not_gap h.1.1) hread

theorem scan_spelling (prefixes : List Prefix) {mnemonic : String} (hm : IsMnemonic mnemonic)
    {ps : List Phrase} (hps : ∀ p ∈ ps, p.Spelled) :
    Lexeme.scan .start 0 (spelling prefixes mnemonic ps) = some (lexemes prefixes mnemonic ps) := by
  have hstart := reads_prefixes prefixes (mnemonic.toList ++ operandsSpelling ps)
  by_cases hne : ps = []
  · have hname := hstart.trans (reads_mnemonic hm (by simp [operandsSpelling, hne, Terminal.Stops]))
    rw [Reads] at hname
    rw [spelling, hname, hne]
    simp [operandsSpelling, Lexeme.scan, Place.accepts, lexemes, Phrase.listLexemes]
  · have hspelling : operandsSpelling ps = ' ' :: Phrase.listSpelling ps := if_neg hne
    have hname := hstart.trans (reads_mnemonic hm (by rw [hspelling]; rfl))
    rw [hspelling] at hname
    have hall := hname.trans (Reads.gap _ _)
    have hlist := Phrase.scan_listSpelling hne hps (rfl : Place.afterMnemonic.next = _)
    rw [Reads, hlist] at hall
    rw [spelling, hspelling, hall]
    simp [lexemes]

private theorem operandsDerive_listLexemes {ps : List Phrase} (hne : ps ≠ []) :
    OperandsDerive (ps.map (⟨·, false⟩)) (Phrase.listLexemes ps) := by
  induction ps with
  | nil => exact absurd rfl hne
  | cons p ps ih =>
    cases ps with
    | nil => exact .last (.explicit p.derives_lexemes)
    | cons q qs => exact .cons "," (.explicit p.derives_lexemes) (ih (by simp))

theorem derives_lexemes (prefixes : List Prefix) (mnemonic : String) (ps : List Phrase) :
    (plain prefixes mnemonic ps).Derives (lexemes prefixes mnemonic ps) := by
  have hwords : (prefixes.map fun p => Lexeme.mk .prefixWord p.word) =
      (prefixes.map Prefix.word).map (Lexeme.mk .prefixWord) := by
    simp
  rw [plain, lexemes, hwords]
  cases ps with
  | nil => exact .bare _ mnemonic
  | cons p ps => exact .operands _ mnemonic (operandsDerive_listLexemes (by simp))

private theorem head?_spelling (prefixes : List Prefix) {mnemonic : String} (hm : IsMnemonic mnemonic)
    (ps : List Phrase) : (spelling prefixes mnemonic ps).head?.all fun c => !Text.isBlank c := by
  cases prefixes with
  | nil =>
    cases hs : mnemonic.toList with
    | nil => exact absurd hm.1.2 (by simp [hs])
    | cons c w =>
      have hc := Text.isBlank_of_isAlphanum (hm.1.1 c (by simp [hs]))
      simp [spelling, hs, hc]
  | cons p prefixes =>
    have hp : p.word.toList.head?.all fun c => !Text.isBlank c := by
      cases p <;> decide
    cases p <;> exact hp

private theorem getLast?_spelling (prefixes : List Prefix) {mnemonic : String} (hm : IsMnemonic mnemonic)
    {ps : List Phrase} (hps : ∀ p ∈ ps, p.Spelled) :
    (spelling prefixes mnemonic ps).getLast?.all fun c => !Text.isBlank c := by
  by_cases hne : ps = []
  · have hname : mnemonic.toList ≠ [] := fun hnil => by simpa [hnil] using hm.1.2
    have hlast := Text.isBlank_of_isAlphanum (hm.1.1 _ (List.getLast_mem hname))
    simp [spelling, operandsSpelling, hne, List.getLast?_append, List.getLast?_eq_some_getLast hname,
      hlast]
  · obtain ⟨c, hc, hblank⟩ := Phrase.getLast?_listSpelling hne hps
    simp [spelling, operandsSpelling, hne, List.getLast?_append, List.getLast?_cons, hc, hblank]

/-- The spelling of an instruction is read as its parts. -/
theorem parse?_spelling (prefixes : List Prefix) {mnemonic : String} (hm : IsMnemonic mnemonic)
    {ps : List Phrase} (hps : ∀ p ∈ ps, p.Spelled) :
    parse? (String.ofList (spelling prefixes mnemonic ps)) = some (plain prefixes mnemonic ps) := by
  have htrim := Text.trim_eq_self (head?_spelling prefixes hm ps) (getLast?_spelling prefixes hm hps)
  rw [parse?, String.toList_ofList, htrim, scan_spelling prefixes hm hps, Option.bind_some,
    ofLexemes?_eq_some]
  exact derives_lexemes prefixes mnemonic ps

end Sentence
end AsmListing
