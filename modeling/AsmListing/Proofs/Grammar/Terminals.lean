import Mathlib
import AsmListing.Proofs.Grammar.Pattern
import AsmListing.Proofs.Reader.Words

/-! The terminals as regular expressions. What a terminal takes from the front of a text is the first
match of its expression. -/
namespace AsmListing
open Terminal (foldLetter isOneOf wordOf isNameLetter isNameChar isHexDigit isBit)

theorem takeWhile_eq_of_length {q : Char → Bool} {w rest : List Char}
    (h : ((w ++ rest).takeWhile q).length = w.length) : (w ++ rest).takeWhile q = w :=
  (List.prefix_of_prefix_length_le (List.takeWhile_prefix q) (List.prefix_append w rest) h.le).eq_of_length h

/-- A word is taken whole. -/
theorem Terminal.wordLength?_append_eq_some {accepts : List Char → Bool} {w rest : List Char} :
    wordLength? accepts (w ++ rest) = some w.length ↔ accepts w ∧ wordOf (w ++ rest) = w := by
  rw [wordLength?]
  constructor
  · intro h
    split at h
    · next haccepts =>
      have hw : wordOf (w ++ rest) = w := takeWhile_eq_of_length (Option.some.inj h)
      rw [hw] at haccepts
      exact ⟨haccepts, hw⟩
    · cases h
  · rintro ⟨haccepts, hw⟩
    simp only [hw, haccepts, if_true]

namespace Pattern
variable {p : Pattern} {cs : List Char}

/-- An expression for words that stands before a boundary matches words at whose end the text has
one. -/
theorem matches_seq_boundary {accepts : List Char → Bool} {done : List Char}
    (hp : ∀ w rest, p.Matches done w rest ↔ accepts w) (hne : accepts [] = false)
    (hword : ∀ w, accepts w → ∀ c ∈ w, Text.isWordChar c) {w rest : List Char} :
    (seq p boundary).Matches done w rest ↔ accepts w ∧ wordOf (w ++ rest) = w := by
  have hlast (ha : accepts w) : (done ++ w).getLast?.any Text.isWordChar = true := by
    have hw : w ≠ [] := by
      rintro rfl
      rw [hne] at ha
      cases ha
    rw [List.getLast?_append_of_ne_nil _ hw, List.getLast?_eq_some_getLast hw]
    exact hword w ha _ (List.getLast_mem hw)
  rw [matches_seq, wordOf, takeWhile_append_eq]
  constructor
  · rintro ⟨u, v, rfl, hu, hv⟩
    obtain ⟨rfl, hborder⟩ := matches_boundary.mp hv
    rw [List.append_nil] at *
    have ha := (hp u _).mp hu
    rw [hlast ha] at hborder
    exact ⟨ha, hword u ha, by simpa using hborder.symm⟩
  · rintro ⟨ha, -, hrest⟩
    refine ⟨w, [], (List.append_nil w).symm, (hp w _).mpr ha, matches_boundary.mpr ⟨rfl, ?_⟩⟩
    rw [hlast ha, hrest]
    decide

/-- Such an expression takes the word at the front, if it is one of those that are looked for. -/
theorem length?_seq_boundary {accepts : List Char → Bool}
    (hp : ∀ w rest, p.Matches [] w rest ↔ accepts w) (hne : accepts [] = false)
    (hword : ∀ w, accepts w → ∀ c ∈ w, Text.isWordChar c) :
    (seq p boundary).length? cs = Terminal.wordLength? accepts cs := by
  have hsome (n : Nat) : Terminal.wordLength? accepts cs = some n ↔
      accepts (wordOf cs) ∧ (wordOf cs).length = n := by
    simp [Terminal.wordLength?]
  apply length?_eq
  · intro n hn
    rw [← ((hsome n).mp hn).2]
    exact (List.takeWhile_sublist _).length_le
  · rintro w rest rfl
    rw [matches_seq_boundary hp hne hword, hsome]
    constructor
    · rintro ⟨ha, hw⟩
      rw [hw]
      exact ⟨ha, rfl⟩
    · rintro ⟨ha, hlength⟩
      have hw : wordOf (w ++ rest) = w := takeWhile_eq_of_length hlength
      rw [hw] at ha
      exact ⟨ha, hw⟩

end Pattern

namespace Terminal

/-- The regular expression of a terminal. -/
def pattern : Terminal → Pattern
  | .prefixWord => .seq (.words ["lock", "repne", "repe", "rep"]) .boundary
  | .sizeWord => .seq (.words ["byte", "word", "dword", "qword", "xmmword"])
      (.seq (.several Text.isBlank) (.seq (.words ["ptr"]) .boundary))
  | .shortWord => .seq (.words ["short"]) .boundary
  | .decorator => .seq (.words ["\x7b"]) (.seq (.words ["rn", "rd", "ru", "rz"]) (.words ["-sae\x7d"]))
  | .name => .seq (.one isNameLetter) (.many isNameChar)
  | .number => .seq
      (.either (.seq (.words ["0x"]) (.several isHexDigit))
      (.either (.seq (.one Char.isDigit) (.seq (.many isHexDigit) (.words ["h"])))
      (.either (.seq (.words ["0b"]) (.several isBit)) (.several Char.isDigit)))) .boundary
  | .sign => .one fun c => c == '+' || c == '-'
  | .comma => .one (· == ',')
  | .colon => .one (· == ':')
  | .star => .one (· == '*')
  | .less => .one (· == '<')
  | .greater => .one (· == '>')
  | .openBracket => .one (· == '[')
  | .closeBracket => .one (· == ']')

variable {w rest cs : List Char} {c : Char} {ws : List String}

theorem isOneOf_iff : isOneOf ws w ↔ ∃ s ∈ ws, w.map foldLetter = s.toList := by
  rw [isOneOf, List.contains_eq_mem, decide_eq_true_eq]
  constructor
  · exact fun h => ⟨_, h, String.toList_ofList.symm⟩
  · rintro ⟨s, hs, heq⟩
    rwa [heq, String.ofList_toList]

/-- A word is one of those that are put together from two lists just if it can be taken apart. -/
theorem isOneOf_flatMap {vs : List String} : isOneOf (ws.flatMap fun s => vs.map (s ++ ·)) w ↔
    ∃ u v, w = u ++ v ∧ isOneOf ws u ∧ isOneOf vs v := by
  simp only [isOneOf_iff, List.mem_flatMap, List.mem_map]
  constructor
  · rintro ⟨-, ⟨s, hs, t, ht, rfl⟩, heq⟩
    rw [String.toList_append, List.map_eq_append_iff] at heq
    obtain ⟨u, v, rfl, hu, hv⟩ := heq
    exact ⟨u, v, rfl, ⟨s, hs, hu⟩, t, ht, hv⟩
  · rintro ⟨u, v, rfl, ⟨s, hs, hu⟩, t, ht, hv⟩
    exact ⟨s ++ t, ⟨s, hs, t, ht, rfl⟩, by rw [List.map_append, hu, hv, String.toList_append]⟩

/-- What holds of ASCII characters, the long s and the Kelvin sign holds of all that count as an ASCII
character. -/
theorem forall_folded {P : Char → Prop} (h : ∀ n < 128, P (Char.ofNat n)) (hs : P '\u017f')
    (hk : P '\u212a') (hc : (foldLetter c).toNat < 128) : P c := by
  by_cases hlong : c = '\u017f'
  · rwa [hlong]
  by_cases hkelvin : c = '\u212a'
  · rwa [hkelvin]
  rw [foldLetter, if_neg hlong, if_neg hkelvin] at hc
  exact Text.forall_ascii h (Text.toNat_lt_of_toLower hc)

/-- What counts as a letter is a character of a word. -/
theorem isWordChar_of_foldLetter (h : (foldLetter c).isLower) : Text.isWordChar c :=
  forall_folded (P := fun c => (foldLetter c).isLower → Text.isWordChar c) (by decide)
    (fun _ => by decide) (fun _ => by decide +kernel)
    (Text.toNat_lt_of_isAlphanum (by simp [Char.isAlphanum, Char.isAlpha, h])) h

theorem isWordChar_of_isNameChar (h : isNameChar c) : Text.isWordChar c := by
  simp only [isNameChar, isNameLetter, Bool.or_eq_true, beq_iff_eq] at h
  rcases h with ((h | rfl) | rfl) | h
  · exact isWordChar_of_foldLetter h
  · decide +kernel
  · decide +kernel
  · exact Text.isWordChar_of_isAlphanum (by simp [Char.isAlphanum, h])

/-- The lists of words that are taken whole. -/
def wholeWords : List (List String) :=
  [["lock", "repne", "repe", "rep"], sizeWords, ["short"], ["ptr"]]

private theorem isWordChar_of_isOneOf (hws : ws ∈ wholeWords) (h : isOneOf ws w) :
    ∀ c ∈ w, Text.isWordChar c := by
  have hall : wholeWords.all fun ws => ws.all fun s => s.toList.all Char.isLower := by decide
  have hletters := List.all_eq_true.mp hall ws hws
  obtain ⟨s, hs, heq⟩ := isOneOf_iff.mp h
  intro c hc
  apply isWordChar_of_foldLetter
  apply List.all_eq_true.mp (List.all_eq_true.mp hletters s hs)
  rw [← heq]
  exact List.mem_map_of_mem hc

private theorem foldLetter_eq_iff {x : Char} (hx : x ∈ ['x', 'b', 'h']) :
    foldLetter c = x ↔ c.toLower = x := by
  have hne : x ≠ '\u017f' ∧ x ≠ '\u212a' ∧ x ≠ 's' ∧ x ≠ 'k' := by
    simp only [List.mem_cons, List.not_mem_nil, or_false] at hx
    rcases hx with rfl | rfl | rfl <;> decide
  rw [foldLetter]
  split
  · next hc =>
    subst hc
    exact ⟨fun h => absurd h.symm hne.2.2.1, fun h => absurd h.symm hne.1⟩
  split
  · next hc =>
    subst hc
    exact ⟨fun h => absurd h.symm hne.2.2.2, fun h => absurd h.symm hne.2.1⟩
  · rfl

/-- What does not count as a letter counts as itself. -/
theorem eq_of_foldLetter_eq {x : Char} (hx : x.toNat < 128 ∧ x.isLower = false) (h : foldLetter c = x) :
    c = x := by
  have hself : foldLetter c = c :=
    forall_folded (P := fun c => (foldLetter c).isLower = false → foldLetter c = c) (by decide)
      (by decide) (by decide) (by rw [h]; exact hx.1) (by rw [h]; exact hx.2)
  rw [← hself, h]

/-- A zero and a letter, before digits. -/
private theorem matches_marked {s : String} (letter : Char) {isDigit : Char → Bool}
    (hs : s.toList = ['0', letter]) (hletter : letter ∈ ['x', 'b', 'h']) {done : List Char} :
    (Pattern.seq (.words [s]) (.several isDigit)).Matches done w rest ↔ isMarked letter isDigit w := by
  rw [Pattern.matches_seq, Numeral.isMarked_iff]
  simp only [Pattern.matches_words, Pattern.matches_several, isOneOf_iff, List.mem_singleton,
    exists_eq_left, hs]
  constructor
  · rintro ⟨u, ds, rfl, hu, hds⟩
    obtain ⟨a, v, rfl, ha, hv⟩ := List.map_eq_cons_iff.mp hu
    obtain ⟨c, v, rfl, hc, hv⟩ := List.map_eq_cons_iff.mp hv
    obtain rfl := List.map_eq_nil_iff.mp hv
    obtain rfl := eq_of_foldLetter_eq (by decide) ha
    exact ⟨c, ds, rfl, (foldLetter_eq_iff hletter).mp hc, hds⟩
  · rintro ⟨c, ds, rfl, hc, hds⟩
    refine ⟨['0', c], ds, rfl, ?_, hds⟩
    rw [List.map_cons, List.map_singleton, (foldLetter_eq_iff hletter).mpr hc]
    rfl

private theorem isHexDigit_of_decimal (h : c.isDigit) : isHexDigit c := by
  rw [isHexDigit, h, Bool.true_or]

/-- Hexadecimal digits, the first of them decimal, before an `h`. -/
private theorem matches_suffixed {done : List Char} :
    (Pattern.seq (.one Char.isDigit) (.seq (.many isHexDigit) (.words ["h"]))).Matches done w rest ↔
      isSuffixedHex w := by
  have hword {u : List Char} : isOneOf ["h"] u ↔ ∃ h, u = [h] ∧ h.toLower = 'h' := by
    rw [isOneOf_iff]
    simp only [List.mem_singleton, exists_eq_left]
    constructor
    · intro hu
      obtain ⟨h, v, rfl, hh, hv⟩ := List.map_eq_cons_iff.mp hu
      obtain rfl := List.map_eq_nil_iff.mp hv
      exact ⟨h, rfl, (foldLetter_eq_iff (by simp)).mp hh⟩
    · rintro ⟨h, rfl, hh⟩
      rw [List.map_singleton, (foldLetter_eq_iff (by simp)).mpr hh]
      rfl
  rw [Pattern.matches_seq, Numeral.isSuffixedHex_iff]
  simp only [Pattern.matches_seq, Pattern.matches_one, Pattern.matches_many, Pattern.matches_words,
    hword]
  constructor
  · rintro ⟨-, -, rfl, ⟨d, rfl, hd⟩, ds, -, rfl, hds, h, rfl, hh⟩
    exact ⟨d :: ds, h, rfl, hh, List.forall_mem_cons.mpr ⟨isHexDigit_of_decimal hd, hds⟩, hd⟩
  · rintro ⟨ds, h, rfl, hh, hds, hhead⟩
    cases ds with
    | nil => cases hhead
    | cons d ds =>
      have hrest : ∀ c ∈ ds, isHexDigit c := fun c hc => hds c (List.mem_cons_of_mem d hc)
      exact ⟨[d], ds ++ [h], rfl, ⟨d, rfl, hhead⟩, ds, [h], rfl, hrest, h, rfl, hh⟩

/-- The characters of numbers are characters of words. -/
private theorem isWordChar_of_isNumber (h : isNumber w) : ∀ c ∈ w, Text.isWordChar c :=
  fun c hc => Text.isWordChar_of_isAlphanum ((Numeral.spells_spelled h).isAlphanum c hc)

/-- The four forms of numbers, before the end of the word is looked for. -/
private theorem matches_forms (w rest : List Char) : (Pattern.either
    (.seq (.words ["0x"]) (.several isHexDigit))
    (.either (.seq (.one Char.isDigit) (.seq (.many isHexDigit) (.words ["h"])))
    (.either (.seq (.words ["0b"]) (.several isBit)) (.several Char.isDigit)))).Matches [] w rest ↔
      isNumber w := by
  rw [Pattern.matches_either, Pattern.matches_either, Pattern.matches_either,
    matches_marked 'x' rfl (by simp), matches_suffixed,
    matches_marked 'b' rfl (by simp), Pattern.matches_several]
  simp [isNumber, isDecimal, or_assoc]

private theorem length?_number : (pattern .number).length? cs = length? .number cs :=
  Pattern.length?_seq_boundary matches_forms rfl fun _ => isWordChar_of_isNumber

/-- A number is matched where a word ends behind it. -/
theorem matches_number : (pattern .number).Matches [] w rest ↔ isNumber w ∧ wordOf (w ++ rest) = w :=
  Pattern.matches_seq_boundary matches_forms rfl fun _ => isWordChar_of_isNumber

private theorem length?_words (hws : ws ∈ wholeWords) (hne : isOneOf ws [] = false) :
    (Pattern.seq (.words ws) .boundary).length? cs = wordLength? (isOneOf ws) cs :=
  Pattern.length?_seq_boundary (fun _ _ => Pattern.matches_words) hne fun _ => isWordChar_of_isOneOf hws

/-- The word for a size ends at the blanks behind it. -/
theorem wordOf_size {a gap : List Char} (hsize : isOneOf sizeWords a)
    (hgap : gap ≠ [] ∧ ∀ c ∈ gap, Text.isBlank c) : wordOf (a ++ (gap ++ rest)) = a := by
  refine takeWhile_append_eq.mpr ⟨isWordChar_of_isOneOf (by simp [wholeWords]) hsize, ?_⟩
  obtain ⟨c, gap, rfl⟩ := List.exists_cons_of_ne_nil hgap.1
  exact Text.isWordChar_of_isBlank (hgap.2 c List.mem_cons_self)

/-- The parts of a size lexeme: the word for the size, blanks, and the word `ptr`. -/
theorem sizeLength?_eq_some {n : Nat} : sizeLength? cs = some n ↔ ∃ a gap q rest,
    cs = a ++ (gap ++ (q ++ rest)) ∧ isOneOf sizeWords a ∧ (gap ≠ [] ∧ ∀ c ∈ gap, Text.isBlank c) ∧
      (isOneOf ["ptr"] q ∧ wordOf (q ++ rest) = q) ∧ n = (a ++ (gap ++ q)).length := by
  have hsplit (p : Char → Bool) (ds : List Char) :
      ds.takeWhile p ++ ds.drop (ds.takeWhile p).length = ds :=
    List.prefix_iff_eq_append.mp (List.takeWhile_prefix p)
  constructor
  · intro h
    simp only [sizeLength?, ← List.drop_drop] at h
    split at h
    · next hparts =>
      simp only [Bool.and_eq_true, Bool.not_eq_true', List.isEmpty_eq_false_iff] at hparts
      obtain ⟨⟨hsize, hgap⟩, hptr⟩ := hparts
      let after := cs.drop (wordOf cs).length
      let last := after.drop (after.takeWhile Text.isBlank).length
      have hlast : wordOf last ++ last.drop (wordOf last).length = last := hsplit _ last
      refine ⟨wordOf cs, after.takeWhile Text.isBlank, wordOf last, last.drop (wordOf last).length, ?_,
        hsize, ⟨hgap, fun c hc => List.mem_takeWhile_imp hc⟩, ⟨hptr, ?_⟩, ?_⟩
      · rw [hlast, hsplit _ after]
        exact (hsplit _ cs).symm
      · rw [hlast]
      · rw [← Option.some.inj h, List.length_append, List.length_append, Nat.add_assoc]
    · cases h
  · rintro ⟨a, gap, q, rest, rfl, hsize, ⟨hne, hgap⟩, ⟨hptr, hq⟩, rfl⟩
    have hword : wordOf (a ++ (gap ++ (q ++ rest))) = a := wordOf_size hsize ⟨hne, hgap⟩
    have hblanks : (gap ++ (q ++ rest)).takeWhile Text.isBlank = gap := by
      refine takeWhile_append_eq.mpr ⟨hgap, ?_⟩
      cases q with
      | nil => cases hptr
      | cons c q =>
        exact Text.isBlank_of_isWordChar
          (isWordChar_of_isOneOf (by simp [wholeWords]) hptr c List.mem_cons_self)
    simp only [sizeLength?, hword, List.drop_left, hblanks, ← List.drop_drop, hq, hsize, hptr]
    simp [hne, Nat.add_assoc]

private theorem length?_size : (pattern .sizeWord).length? cs = length? .sizeWord cs := by
  apply Pattern.length?_eq
  · intro n hn
    obtain ⟨a, gap, q, rest, rfl, -, -, -, rfl⟩ := sizeLength?_eq_some.mp hn
    simp
  · rintro w rest rfl
    have hptr {done q : List Char} : (Pattern.seq (.words ["ptr"]) .boundary).Matches done q rest ↔
        isOneOf ["ptr"] q ∧ wordOf (q ++ rest) = q :=
      Pattern.matches_seq_boundary (fun _ _ => Pattern.matches_words) (by decide)
        fun _ => isWordChar_of_isOneOf (by simp [wholeWords])
    rw [length?, sizeLength?_eq_some, pattern, Pattern.matches_seq]
    constructor
    · rintro ⟨a, v, rfl, ha, hv⟩
      obtain ⟨gap, q, rfl, hgap, hq⟩ := Pattern.matches_seq.mp hv
      exact ⟨a, gap, q, rest, by simp, Pattern.matches_words.mp ha, Pattern.matches_several.mp hgap,
        hptr.mp hq, rfl⟩
    · rintro ⟨a, gap, q, rest', hcs, ha, hgap, hq, hlength⟩
      obtain ⟨rfl, rfl⟩ : w = a ++ (gap ++ q) ∧ rest = rest' :=
        List.append_inj (by simpa using hcs) hlength
      exact ⟨a, gap ++ q, rfl, Pattern.matches_words.mpr ha,
        Pattern.matches_seq.mpr ⟨gap, q, rfl, Pattern.matches_several.mpr hgap, hptr.mpr hq⟩⟩

private theorem matches_decorator {done : List Char} :
    (pattern .decorator).Matches done w rest ↔ isOneOf decorators w := by
  have hwords : decorators = ["\x7b"].flatMap fun s =>
      (["rn", "rd", "ru", "rz"].flatMap fun t => ["-sae\x7d"].map (t ++ ·)).map (s ++ ·) := by
    decide
  simp only [hwords, isOneOf_flatMap, pattern, Pattern.matches_seq, Pattern.matches_words]

private theorem length?_decorator : (pattern .decorator).length? cs = length? .decorator cs := by
  have hlength {w : List Char} (h : isOneOf decorators w) : w.length = 8 := by
    obtain ⟨s, hs, heq⟩ := isOneOf_iff.mp h
    have hall : decorators.all fun s => s.toList.length == 8 := by decide
    rw [← List.length_map (f := foldLetter), heq]
    exact beq_iff_eq.mp (List.all_eq_true.mp hall s hs)
  have hsome (n : Nat) : length? .decorator cs = some n ↔ isOneOf decorators (cs.take 8) ∧ 8 = n := by
    simp [length?]
  apply Pattern.length?_eq
  · intro n hn
    obtain ⟨htake, rfl⟩ := (hsome n).mp hn
    simpa using hlength htake
  · rintro w rest rfl
    rw [matches_decorator, hsome]
    constructor
    · intro h
      rw [List.take_left' (hlength h)]
      exact ⟨h, (hlength h).symm⟩
    · rintro ⟨htake, hw⟩
      rwa [List.take_left' hw.symm] at htake

private theorem length?_name : (pattern .name).length? cs = length? .name cs := by
  cases cs with
  | nil => rfl
  | cons c cs =>
    by_cases hc : isNameLetter c
    · have hchar : isNameChar c := by rw [isNameChar, hc, Bool.true_or]
      simp [Pattern.length?, pattern, Pattern.ends_seq, Pattern.ends_one, Pattern.ends_many,
        Pattern.head?_runs, length?, hc, hchar]
    · simp [Pattern.length?, pattern, Pattern.ends_seq, Pattern.ends_one, length?, hc]

private theorem length?_one {accepts : Char → Bool} :
    (Pattern.one accepts).length? cs = charLength? accepts cs := by
  cases cs with
  | nil => rfl
  | cons c cs => by_cases hc : accepts c <;> simp [Pattern.length?, Pattern.ends_one, charLength?, hc]

/-- What a terminal takes from the front of a text is the first match of its expression. -/
theorem length?_eq_pattern (t : Terminal) (cs : List Char) : t.length? cs = t.pattern.length? cs := by
  cases t with
  | prefixWord =>
    have hsame : isOneOf ["lock", "repne", "repe", "rep"] = isOneOf prefixWords := by
      funext w
      rw [Bool.eq_iff_iff, isOneOf_iff, isOneOf_iff]
      simp only [prefixWords, List.mem_cons, List.not_mem_nil, or_false]
      grind
    rw [pattern, length?_words (by simp [wholeWords]) (by decide), hsame]
    rfl
  | shortWord => exact (length?_words (by simp [wholeWords]) (by decide)).symm
  | sizeWord => exact length?_size.symm
  | decorator => exact length?_decorator.symm
  | name => exact length?_name.symm
  | number => exact length?_number.symm
  | sign | comma | colon | star | less | greater | openBracket | closeBracket => exact length?_one.symm

end Terminal
end AsmListing
