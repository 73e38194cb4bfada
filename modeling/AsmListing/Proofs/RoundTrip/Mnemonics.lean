import Mathlib
import AsmListing.Proofs.RoundTrip.Instructions

/-! The mnemonics and prefixes of instructions that are read from ASCII texts. -/
namespace AsmListing
open Terminal (isNameChar isNameLetter wordOf isOneOf prefixWords)

/-- A name at the start of a text, as it is cut off: letters and digits after a letter, and no prefix. -/
structure IsStartName (w : List Char) : Prop where
  isAlphanum : ∀ c ∈ w, c.isAlphanum
  head : w.head?.any Char.isAlpha
  notPrefix : isOneOf prefixWords w = false

private theorem isNameChar_ascii {c : Char} (h : c.toNat < 128) : isNameChar c = c.isAlphanum :=
  Text.forall_ascii (P := fun c => isNameChar c = c.isAlphanum) (by decide) h

private theorem isWordChar_ascii {c : Char} (h : c.toNat < 128) :
    Text.isWordChar c = (c == '_' || isNameChar c) := by
  rw [Text.isWordChar, Text.isAlphanumeric_ascii h, isNameChar_ascii h]

private theorem isNumber_underscore (w : List Char) : Terminal.isNumber ('_' :: w) = false := by
  have hhex : Terminal.isSuffixedHex ('_' :: w) = false := by
    rw [Terminal.isSuffixedHex, List.reverse_cons]
    cases w.reverse with
    | nil => rfl
    | cons c ds =>
      have hdigit : Terminal.isHexDigit '_' = false := by decide
      simp [hdigit]
  simp [Terminal.isNumber, Terminal.isMarked, Terminal.isDecimal, hhex]

/-- No terminal that can follow a mnemonic starts with an underscore. -/
private theorem scan_underscore (cs : List Char) : Lexeme.scan .afterMnemonic 0 ('_' :: cs) = none := by
  have hword : wordOf ('_' :: cs) = '_' :: wordOf cs := rfl
  have hnot (words : List String) (w : List Char) (h : ∀ s ∈ words, s.toList.head? ≠ some '_') :
      isOneOf words ('_' :: w) = false := by
    by_contra hone
    have hmem : String.ofList (('_' :: w).map Terminal.foldLetter) ∈ words := by
      simpa [isOneOf] using hone
    refine h _ hmem ?_
    simp only [String.toList_ofList, List.map_cons, List.head?_cons]
    decide
  have hsize : isOneOf Terminal.sizeWords ('_' :: wordOf cs) = false := hnot _ _ (by decide)
  have hshort : isOneOf ["short"] ('_' :: wordOf cs) = false := hnot _ _ (by decide)
  have hdecorator : isOneOf Terminal.decorators ('_' :: cs.take 7) = false := hnot _ _ (by decide)
  have hletter : isNameLetter '_' = false := by decide
  have hread : Place.afterMnemonic.read? ('_' :: cs) = none := by
    simp [Place.read?, Place.next, Place.operandStarts, Terminal.length?, Terminal.sizeLength?,
      Terminal.wordLength?, Terminal.charLength?, hword, hsize, hshort, hdecorator, hletter,
      isNumber_underscore]
  rw [Lexeme.scan, if_neg (by decide), hread]

/-- In an ASCII text, the run of name characters at the front is the whole word, unless an underscore
follows it. -/
private theorem wordOf_eq_takeWhile {cs : List Char} (hascii : Text.IsAscii cs)
    (hstop : (cs.dropWhile isNameChar).head? ≠ some '_') : wordOf cs = cs.takeWhile isNameChar := by
  unfold wordOf
  induction cs with
  | nil => rfl
  | cons c cs ih =>
    have hword := isWordChar_ascii (hascii c List.mem_cons_self)
    by_cases hc : isNameChar c
    · rw [List.dropWhile_cons_of_pos hc] at hstop
      rw [List.takeWhile_cons_of_pos (by rw [hword, hc, Bool.or_true]), List.takeWhile_cons_of_pos hc,
        ih (fun x hx => hascii x (List.mem_cons_of_mem c hx)) hstop]
    · rw [List.dropWhile_cons_of_neg hc] at hstop
      have hunderscore : c ≠ '_' := fun heq => hstop (congrArg some heq)
      rw [List.takeWhile_cons_of_neg (by simp [hword, hunderscore, hc]), List.takeWhile_cons_of_neg hc]

private theorem take_of_length?_name {cs : List Char} {n : Nat} (h : Terminal.length? .name cs = some n) :
    cs.head?.any isNameLetter ∧ cs.take n = cs.takeWhile isNameChar ∧
      cs.drop n = cs.dropWhile isNameChar := by
  rw [Terminal.length?] at h
  split at h
  · next hhead =>
    cases h
    have htake : cs.take (cs.takeWhile isNameChar).length = cs.takeWhile isNameChar :=
      (List.prefix_iff_eq_take.mp (List.takeWhile_prefix isNameChar)).symm
    have hsplit : cs.takeWhile isNameChar ++ cs.drop (cs.takeWhile isNameChar).length =
        cs.takeWhile isNameChar ++ cs.dropWhile isNameChar := by
      rw [List.takeWhile_append_dropWhile]
      nth_rewrite 1 [← htake]
      exact List.take_append_drop _ cs
    exact ⟨hhead, htake, List.append_cancel_left hsplit⟩
  · cases h

/-- Where a mnemonic was cut off and the text could be read on, the word at the front is the mnemonic
itself: it could only go on with an underscore. -/
private theorem isStartName_take {cs : List Char} {n : Nat} {ls : List Lexeme} (hascii : Text.IsAscii cs)
    (hmark : Terminal.length? .prefixWord cs = none) (hname : Terminal.length? .name cs = some n)
    (hrest : Lexeme.scan .afterMnemonic 0 (cs.drop n) = some ls) : IsStartName (cs.take n) := by
  obtain ⟨hhead, htake, hdrop⟩ := take_of_length?_name hname
  have hword : wordOf cs = cs.takeWhile isNameChar := by
    refine wordOf_eq_takeWhile hascii fun hunderscore => ?_
    obtain ⟨rest, heq⟩ := List.head?_eq_some_iff.mp hunderscore
    rw [hdrop, heq, scan_underscore] at hrest
    cases hrest
  rw [htake]
  refine ⟨fun c hc => ?_, ?_, ?_⟩
  · rw [← isNameChar_ascii (hascii c ((List.takeWhile_sublist _).subset hc))]
    exact List.mem_takeWhile_imp hc
  · cases cs with
    | nil => cases hhead
    | cons c cs =>
      have hletter : isNameLetter c := hhead
      have hc : c.isAlpha := by rwa [← Terminal.isNameLetter_ascii (hascii c List.mem_cons_self)]
      rw [List.takeWhile_cons_of_pos (by simp [isNameChar, hletter])]
      exact hc
  · rw [Terminal.length?, Terminal.wordLength?, hword] at hmark
    split at hmark
    · cases hmark
    · next hnot => simpa using hnot

/-- A text starts with prefixes and a mnemonic. The induction is on the length of the text, for each
prefix takes several characters off it. -/
private theorem scan_start {cs : List Char} {ls : List Lexeme} (hascii : Text.IsAscii cs)
    (h : Lexeme.scan .start 0 cs = some ls) :
    ∃ (words : List String) (w : List Char) (rest : List Lexeme),
      ls = words.map (⟨.prefixWord, ·⟩) ++ ⟨.name, String.ofList w⟩ :: rest ∧ IsStartName w := by
  induction hlen : cs.length using Nat.strong_induction_on generalizing cs ls with
  | _ k ih =>
    cases cs with
    | nil => cases h
    | cons c cs =>
      have hsuffix (m : Nat) : Text.IsAscii (cs.drop m) :=
        fun x hx => hascii x (List.mem_cons_of_mem c (List.mem_of_mem_drop hx))
      have hshorter (m : Nat) : (cs.drop m).length < k := by
        simp only [List.length_drop, List.length_cons] at hlen ⊢
        omega
      rw [Lexeme.scan] at h
      split at h
      · exact ih _ (hshorter 0) (hsuffix 0) h rfl
      cases hmark : Terminal.length? .prefixWord (c :: cs) with
      | some n =>
        have hread : Place.start.read? (c :: cs) = some (.prefixWord, .start, n) := by
          simp [Place.read?, Place.next, hmark]
        rw [hread] at h
        obtain ⟨ls', hls, rfl⟩ := Option.map_eq_some_iff.mp h
        rw [Lexeme.scan_eq_scan_drop] at hls
        obtain ⟨words, w, rest, rfl, hw⟩ := ih _ (hshorter (n - 1)) (hsuffix (n - 1)) hls rfl
        exact ⟨_ :: words, w, rest, rfl, hw⟩
      | none =>
        cases hname : Terminal.length? .name (c :: cs) with
        | none =>
          have hread : Place.start.read? (c :: cs) = none := by
            simp [Place.read?, Place.next, hmark, hname]
          rw [hread] at h
          cases h
        | some n =>
          have hread : Place.start.read? (c :: cs) = some (.name, .afterMnemonic, n) := by
            simp [Place.read?, Place.next, hmark, hname]
          rw [hread] at h
          obtain ⟨ls', hls, rfl⟩ := Option.map_eq_some_iff.mp h
          have hdrop : cs.drop (n - 1) = (c :: cs).drop n := by
            obtain ⟨m, rfl⟩ := Nat.exists_eq_succ_of_ne_zero (Terminal.length?_pos hname).ne'
            rfl
          rw [Lexeme.scan_eq_scan_drop, hdrop] at hls
          exact ⟨[], _, ls', rfl, isStartName_take hascii hmark hname hls⟩

/-- The mnemonic of a sentence is its first name. -/
private theorem mnemonic_of_ofLexemes? {words : List String} {name : String} {rest : List Lexeme}
    {s : Sentence}
    (h : Sentence.ofLexemes? (words.map (⟨.prefixWord, ·⟩) ++ ⟨.name, name⟩ :: rest) = some s) :
    s.mnemonic = name := by
  have hmark : ∀ l ∈ words.map fun word => Lexeme.mk .prefixWord word,
      decide (l.terminal = .prefixWord) = true := by
    simp
  rw [Sentence.ofLexemes?, List.takeWhile_append_of_pos hmark,
    List.dropWhile_append_of_pos hmark] at h
  cases rest with
  | nil =>
    simp only [List.dropWhile_cons] at h
    cases h
    rfl
  | cons l rest =>
    simp only [List.dropWhile_cons] at h
    obtain ⟨ops, -, rfl⟩ := Option.map_eq_some_iff.mp h
    rfl

/-- In small letters a name at the start of a text is a plain mnemonic. -/
private theorem IsStartName.isPlainMnemonic {w : List Char} (h : IsStartName w) :
    IsPlainMnemonic (String.ofList (w.map Char.toLower)) := by
  have hsmall : ∀ c ∈ w, (c.toLower.isLower || c.toLower.isDigit) ∧ Terminal.foldLetter c = c.toLower := by
    intro c hc
    exact Text.forall_ascii (P := fun c => c.isAlphanum = true →
      (c.toLower.isLower || c.toLower.isDigit) = true ∧ Terminal.foldLetter c = c.toLower)
      (by decide) (Text.toNat_lt_of_isAlphanum (h.isAlphanum c hc)) (h.isAlphanum c hc)
  refine ⟨?_, ?_, ?_⟩
  · have hhead := h.head
    cases w with
    | nil => simp at hhead
    | cons c w =>
      have hc : c.isAlpha := by simpa using hhead
      have hlower : c.toLower.isLower :=
        Text.forall_ascii (P := fun c => c.isAlpha = true → c.toLower.isLower = true) (by decide)
          (Text.toNat_lt_of_isAlphanum (h.isAlphanum c List.mem_cons_self)) hc
      simpa using hlower
  · simpa using fun c hc => (hsmall c hc).1
  · have hfold : w.map Terminal.foldLetter = w.map Char.toLower :=
      List.map_congr_left fun c hc => (hsmall c hc).2
    have hnot := h.notPrefix
    rw [isOneOf, hfold] at hnot
    have hmem : (prefixWords.contains (String.ofList (w.map Char.toLower))) = false := hnot
    rwa [List.contains_eq_mem, decide_eq_false_iff_not] at hmem

/-- Reading an ASCII text gives an instruction with a plain mnemonic. -/
theorem Instruction.isPlainMnemonic_of_read {text : String} {i : Instruction}
    (hascii : Text.IsAscii text.toList) (h : Instruction.read text = .ok i) :
    IsPlainMnemonic i.mnemonic := by
  obtain ⟨s, hparse, hs⟩ := Instruction.read_eq_ok.mp h
  obtain ⟨ls, hscan, hls⟩ := Option.bind_eq_some_iff.mp hparse
  have htrim : Text.IsAscii (Text.trim text.toList) := fun c hc => hascii c (Text.trim_subset _ hc)
  obtain ⟨words, w, rest, rfl, hw⟩ := scan_start htrim hscan
  have hname := mnemonic_of_ofLexemes? hls
  obtain ⟨-, -, -, -, -, -, -, rfl⟩ := Sentence.instruction_eq_ok.mp hs
  have hlower : Text.lower s.mnemonic = String.ofList (w.map Char.toLower) := by
    rw [hname, ← String.toList_inj,
      Text.toList_lower_ascii (by simpa using Text.IsAscii.of_isAlphanum hw.isAlphanum)]
    simp
  show IsPlainMnemonic (Text.lower s.mnemonic)
  rw [hlower]
  exact hw.isPlainMnemonic

namespace PrefixMask

private theorem Known.insert {mask : PrefixMask} (h : mask.Known) (p : Prefix) : (mask.insert p).Known :=
  have hall (p : Prefix) : ∀ n : Nat, n < 16 →
      0 ≤ (PrefixMask.insert ⟨n⟩ p).bits ∧ (PrefixMask.insert ⟨n⟩ p).bits < 16 := by
    cases p <;> decide
  forall_known (P := fun mask => (mask.insert p).Known) (hall p) h

/-- Reading sets no bits but those of the four prefixes. -/
theorem known_prefixMask (words : List String) : (prefixMask words).Known := by
  rw [prefixMask]
  refine List.foldlRecOn _ _ ⟨le_refl _, by decide⟩ ?_
  intro mask hmask p _
  exact hmask.insert p

end PrefixMask

end AsmListing
