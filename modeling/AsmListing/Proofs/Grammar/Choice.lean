import Mathlib
import AsmListing.Proofs.Grammar.Places
import AsmListing.Proofs.Grammar.Terminals

/-! Which terminal is taken. After terminals that have been read, the grammar allows those with which
some sentence goes on. Of these the one of highest priority is taken that matches the text, and never
do two of one priority match. -/
namespace AsmListing

/-- The terminals of some sentence. -/
def IsSentence (ts : List Terminal) : Prop :=
  ∃ (s : Sentence) (ls : List Lexeme), s.Derives ls ∧ ls.map Lexeme.terminal = ts

/-- The grammar allows the terminal after those that have been read. -/
def Allowed (read : List Terminal) (t : Terminal) : Prop := ∃ rest, IsSentence (read ++ t :: rest)

namespace Place
variable {place : Place} {read ts us : List Terminal} {t : Terminal} {ls : List Lexeme}

theorem walk?_append : place.walk? (ts ++ us) = (place.walk? ts).bind (walk? · us) := by
  induction ts generalizing place with
  | nil => rfl
  | cons t ts ih =>
    rw [List.cons_append, walk?, walk?, Option.bind_assoc]
    congr 1
    funext q
    exact ih

theorem isSentence_iff : IsSentence ts ↔ (start.walk? ts).any accepts := by
  constructor
  · rintro ⟨s, ls, hs, rfl⟩
    rw [← mem_language, start_language]
    exact ⟨s, hs⟩
  · intro h
    have hterminals : (ts.map (Lexeme.mk · "")).map Lexeme.terminal = ts := by
      simp [Function.comp_def]
    have hmem : ts.map (Lexeme.mk · "") ∈ start.language := by
      rwa [mem_language, hterminals]
    rw [start_language] at hmem
    obtain ⟨s, hs⟩ := hmem
    exact ⟨s, _, hs, hterminals⟩

/-- Whether lexemes derive from a sentence depends on their terminals only. -/
theorem isSentence_map_iff : IsSentence (ls.map Lexeme.terminal) ↔ ∃ s : Sentence, s.Derives ls := by
  rw [isSentence_iff, ← mem_language, start_language, Lexeme.mem_derivable]

/-- Terminals that lead from a place to the end of an instruction. -/
private def completion : Place → List Terminal
  | .start => [.name]
  | .afterMnemonic => []
  | .afterComma => [.number]
  | .afterLess => [.number, .greater]
  | .afterWord angle | .afterOperand angle => closing angle
  | .beforeNumber angle => .number :: closing angle
  | .afterTerm angle | .afterTermName angle => .closeBracket :: closing angle
  | .beforeTerm angle | .afterStar angle => .number :: .closeBracket :: closing angle
  | .beforeBracket angle | .afterSize angle => .openBracket :: .number :: .closeBracket :: closing angle
  | .afterSegment angle => .colon :: .openBracket :: .number :: .closeBracket :: closing angle
where
  closing (angle : Bool) : List Terminal := if angle then [.greater] else []

private theorem walk?_completion (place : Place) : (place.walk? place.completion).any accepts := by
  cases place with
  | start | afterMnemonic | afterComma | afterLess => rfl
  | _ angle => cases angle <;> rfl

theorem allowed_iff (hread : start.walk? read = some place) :
    Allowed read t ↔ ∃ q, (t, q) ∈ place.next := by
  simp only [Allowed, isSentence_iff, walk?_append, hread, Option.bind_some, walk?,
    ← lookup_next_eq_some]
  cases place.next.lookup t with
  | none => simp
  | some q => simpa using ⟨q.completion, q.walk?_completion⟩

end Place

theorem isBlank_of_isGap {c : Char} (h : isGap c) : Text.isBlank c := by
  simp only [isGap, Bool.or_eq_true, beq_iff_eq] at h
  rcases h with (((rfl | rfl) | rfl) | rfl) | rfl <;> decide

namespace Terminal
variable {t u : Terminal} {cs : List Char} {c : Char} {m n : Nat}

/-- Keywords go before all else. -/
def priority : Terminal → Nat
  | .prefixWord | .sizeWord | .shortWord => 2
  | _ => 0

/-- The terminal is taken from the front of the text, with its length. -/
structure IsTaken (read : List Terminal) (cs : List Char) (t : Terminal) (n : Nat) : Prop where
  allowed : Allowed read t
  matched : t.pattern.length? cs = some n
  preferred : ∀ u ≠ t, Allowed read u → (u.pattern.length? cs).isSome → u.priority < t.priority

private def keywords : Terminal → List String
  | .prefixWord => prefixWords
  | .sizeWord => sizeWords
  | .shortWord => ["short"]
  | _ => []

/-- The terminal that starts with a character, keywords apart. -/
private def startingWith? (c : Char) : Option Terminal :=
  if isNameLetter c then some .name
  else if c.isDigit then some .number
  else [('\x7b', .decorator), ('+', .sign), ('-', .sign), (',', .comma), (':', .colon), ('*', .star),
    ('<', .less), ('>', .greater), ('[', .openBracket), (']', .closeBracket)].lookup c

/-- The terminal that a keyword stands for. -/
private def ofKeyword (s : String) : Terminal :=
  if s ∈ prefixWords then .prefixWord else if s ∈ sizeWords then .sizeWord else .shortWord

private theorem ofKeyword_of_mem {s : String} (h : s ∈ t.keywords) : ofKeyword s = t := by
  have hall : ∀ s ∈ t.keywords, ofKeyword s = t := by
    cases t <;> decide
  exact hall s h

private theorem isOneOf_keywords (ht : t.priority ≠ 0) (h : t.length? cs = some n) :
    isOneOf t.keywords (wordOf cs) := by
  have hword {ws : List String} (h : wordLength? (isOneOf ws) cs = some n) : isOneOf ws (wordOf cs) := by
    simp only [wordLength?] at h
    split at h
    · assumption
    · cases h
  cases t with
  | prefixWord | shortWord => exact hword h
  | sizeWord =>
    simp only [length?, sizeLength?] at h
    split at h
    · next hparts =>
      simp only [Bool.and_eq_true] at hparts
      exact hparts.1.1
    · cases h
  | _ => exact absurd rfl ht

theorem accepts_of_charLength? {accepts : Char → Bool} (h : charLength? accepts (c :: cs) = some n) :
    accepts c := by
  rw [charLength?] at h
  split at h
  · assumption
  · cases h

private theorem startingWith?_eq_some (ht : t.priority = 0) (h : t.length? (c :: cs) = some n) :
    startingWith? c = some t := by
  cases t with
  | prefixWord | sizeWord | shortWord => cases ht
  | name =>
    by_cases hc : isNameLetter c
    · rw [startingWith?, if_pos hc]
    · simp [length?, hc] at h
  | number =>
    simp only [length?, wordLength?] at h
    split at h
    · next hnumber =>
      have hdigit : c.isDigit := by
        have hhead := (Numeral.spells_spelled hnumber).head_isDigit
        by_cases hc : Text.isWordChar c
        · simpa [wordOf, hc] using hhead
        · simp [wordOf, hc] at hhead
      rw [startingWith?, isNameLetter_of_isDigit hdigit, hdigit]
      rfl
    · cases h
  | decorator =>
    simp only [length?] at h
    split at h
    · next hone =>
      obtain ⟨s, hs, heq⟩ := isOneOf_iff.mp hone
      have hall : decorators.all fun s => s.toList.head? == some '\x7b' := by decide
      have hhead : s.toList.head? = some '\x7b' := beq_iff_eq.mp (List.all_eq_true.mp hall s hs)
      rw [← heq, List.take_succ_cons, List.map_cons, List.head?_cons, Option.some.injEq] at hhead
      rw [eq_of_foldLetter_eq (by decide) hhead]
      rfl
    · cases h
  | sign =>
    rw [length?] at h
    rcases Bool.or_eq_true_iff.mp (accepts_of_charLength? h) with hc | hc <;> rw [beq_iff_eq.mp hc] <;> rfl
  | comma | colon | star | less | greater | openBracket | closeBracket =>
    rw [length?] at h
    have hc := accepts_of_charLength? h
    rw [beq_iff_eq.mp hc]
    rfl

/-- A keyword could be read as a name. -/
theorem exists_name_of_keyword (ht : t.priority ≠ 0) (h : t.length? cs = some n) :
    ∃ m, length? .name cs = some m := by
  obtain ⟨s, hs, hw⟩ := isOneOf_iff.mp (isOneOf_keywords ht h)
  have hletters : t.keywords.all fun s => s.toList.head?.any Char.isLower := by
    cases t <;> decide
  have hhead : s.toList.head?.any Char.isLower := List.all_eq_true.mp hletters s hs
  have hletter : cs.head?.any isNameLetter := by
    cases cs with
    | nil =>
      rw [← hw] at hhead
      cases hhead
    | cons c cs =>
      by_cases hc : Text.isWordChar c
      · rw [← hw, wordOf, List.takeWhile_cons_of_pos hc] at hhead
        have hlower : (foldLetter c).isLower := hhead
        show isNameLetter c
        rw [isNameLetter, hlower]
        rfl
      · rw [← hw, wordOf, List.takeWhile_cons_of_neg hc] at hhead
        cases hhead
  exact ⟨_, if_pos hletter⟩

private theorem exists_startingWith? (h : t.length? (c :: cs) = some n) : ∃ u, startingWith? c = some u := by
  by_cases hzero : t.priority = 0
  · exact ⟨t, startingWith?_eq_some hzero h⟩
  · obtain ⟨m, hm⟩ := exists_name_of_keyword hzero h
    exact ⟨.name, startingWith?_eq_some rfl hm⟩

/-- A lexeme starts with a character that can stand in a name, or with a mark. -/
private theorem isNameChar_or_mark (h : t.length? (c :: cs) = some n) :
    isNameChar c ∨ Text.isWordChar c = false ∧ Text.isBlank c = false := by
  obtain ⟨u, hu⟩ := exists_startingWith? h
  rw [startingWith?] at hu
  split at hu
  · next hletter => exact .inl (by rw [isNameChar, hletter, Bool.true_or])
  split at hu
  · next hdigit => exact .inl (by rw [isNameChar, hdigit, Bool.or_true])
  · obtain ⟨before, behind, heq, -⟩ := List.lookup_eq_some_iff.mp hu
    have hmark : (c, u) ∈ before ++ (c, u) :: behind := List.mem_append_right _ List.mem_cons_self
    rw [← heq] at hmark
    simp only [List.mem_cons, Prod.mk.injEq, List.not_mem_nil, or_false] at hmark
    refine .inr ?_
    rcases hmark with h | h | h | h | h | h | h | h | h | h <;> rw [h.1] <;> decide

/-- Where a lexeme starts with a character of words, a name could go on. -/
theorem isNameChar_of_length? (h : t.length? (c :: cs) = some n) (hc : Text.isWordChar c) :
    isNameChar c := by
  rcases isNameChar_or_mark h with hname | ⟨hmark, -⟩
  · exact hname
  · rw [hmark] at hc
    cases hc

/-- No terminal starts with a blank. -/
theorem isBlank_of_length? (h : t.length? (c :: cs) = some n) : Text.isBlank c = false := by
  rcases isNameChar_or_mark h with hname | ⟨-, hblank⟩
  · exact Text.isBlank_of_isWordChar (isWordChar_of_isNameChar hname)
  · exact hblank

/-- No two terminals of one priority match the same text. -/
theorem eq_of_length? (hp : t.priority = u.priority) (ht : t.length? cs = some m)
    (hu : u.length? cs = some n) : t = u := by
  -- Keywords are told apart by the word in front, all else by the first character.
  by_cases hzero : t.priority = 0
  · cases cs with
    | nil => cases t <;> cases ht
    | cons c cs =>
      have hfirst := startingWith?_eq_some hzero ht
      rw [startingWith?_eq_some (hp ▸ hzero) hu] at hfirst
      exact (Option.some.inj hfirst).symm
  · obtain ⟨s, hs, hw⟩ := isOneOf_iff.mp (isOneOf_keywords hzero ht)
    obtain ⟨s', hs', hw'⟩ := isOneOf_iff.mp (isOneOf_keywords (hp ▸ hzero) hu)
    have hsame : s = s' := String.toList_injective (hw.symm.trans hw')
    rw [← ofKeyword_of_mem hs, hsame, ofKeyword_of_mem hs']

/-- No terminal starts with a gap. -/
theorem length?_of_isGap (hc : isGap c) : t.length? (c :: cs) = none := by
  by_contra hsome
  obtain ⟨n, hn⟩ := Option.ne_none_iff_exists'.mp hsome
  have hblank := isBlank_of_length? hn
  rw [isBlank_of_isGap hc] at hblank
  cases hblank

theorem IsTaken.length?_eq {read : List Terminal} (h : t.IsTaken read cs n) : t.length? cs = some n :=
  (length?_eq_pattern t cs).trans h.matched

theorem IsTaken.pos {read : List Terminal} (h : t.IsTaken read cs n) : 0 < n := length?_pos h.length?_eq

theorem IsTaken.head_not_gap {read : List Terminal} {w rest : List Char}
    (h : t.IsTaken read (w ++ rest) n) : w.head?.any isGap = false := by
  cases w with
  | nil => rfl
  | cons c w =>
    by_contra hc
    have hmatch := h.length?_eq
    rw [List.cons_append, length?_of_isGap (by simpa using hc)] at hmatch
    cases hmatch

end Terminal

namespace Place
variable {place q : Place} {read : List Terminal} {t : Terminal} {cs : List Char} {n : Nat}

/-- The terminals that can follow stand in the order of their priorities. -/
private theorem pairwise_next (place : Place) :
    place.next.Pairwise fun x y => y.1.priority ≤ x.1.priority := by
  cases place with
  | start | afterMnemonic | afterComma | afterLess => decide
  | _ angle => cases angle <;> decide

private theorem preferred_of_read? (h : place.read? cs = some (t, q, n)) :
    (t, q) ∈ place.next ∧ t.length? cs = some n ∧
      ∀ u ≠ t, (∃ r, (u, r) ∈ place.next) → (u.length? cs).isSome → u.priority < t.priority := by
  obtain ⟨before, ⟨t', q'⟩, behind, hnext, hfound, hnone⟩ := List.findSome?_eq_some_iff.mp h
  obtain ⟨m, hm, heq⟩ := Option.map_eq_some_iff.mp hfound
  cases heq
  refine ⟨by simp [hnext], hm, fun u hne ⟨r, hr⟩ hu => ?_⟩
  obtain ⟨k, hk⟩ := Option.isSome_iff_exists.mp hu
  have hpair := place.pairwise_next
  rw [hnext] at hr hpair
  -- A terminal before the one that is read does not match, and none behind it has a higher priority.
  rcases List.mem_append.mp hr with hr | hr
  · have := hnone _ hr
    simp [hk] at this
  · rcases List.mem_cons.mp hr with heq | hr
    · cases heq
      exact absurd rfl hne
    · have hle := List.rel_of_pairwise_cons (List.pairwise_append.mp hpair).2.1 hr
      exact lt_of_le_of_ne hle fun heq => hne (Terminal.eq_of_length? heq hk hm)

/-- A place reads the terminal that is taken after those that led to it. -/
theorem read?_eq_some (hread : start.walk? read = some place) :
    place.read? cs = some (t, q, n) ↔ t.IsTaken read cs n ∧ (t, q) ∈ place.next := by
  constructor
  · intro h
    obtain ⟨hnext, hmatch, hpreferred⟩ := preferred_of_read? h
    have hallowed : Allowed read t := (allowed_iff hread).mpr ⟨q, hnext⟩
    rw [Terminal.length?_eq_pattern] at hmatch
    refine ⟨⟨hallowed, hmatch, ?_⟩, hnext⟩
    intro u hne hallowed hu
    rw [← Terminal.length?_eq_pattern] at hu
    exact hpreferred u hne ((allowed_iff hread).mp hallowed) hu
  · rintro ⟨⟨-, hmatch, hpreferred⟩, hnext⟩
    rw [← Terminal.length?_eq_pattern] at hmatch
    cases hfound : place.read? cs with
    | none =>
      have := List.findSome?_eq_none_iff.mp hfound (t, q) hnext
      simp [hmatch] at this
    | some found =>
      obtain ⟨u, r, m⟩ := found
      obtain ⟨hr, hm, hfirst⟩ := preferred_of_read? hfound
      by_cases hsame : u = t
      · subst hsame
        rw [← lookup_next_eq_some] at hr hnext
        rw [hnext] at hr
        rw [hmatch] at hm
        cases hr
        cases hm
        rfl
      · have hlt := hpreferred u hsame ((allowed_iff hread).mpr ⟨r, hr⟩)
          (by rw [← Terminal.length?_eq_pattern, hm]; rfl)
        have hgt := hfirst t (Ne.symm hsame) ⟨q, hnext⟩ (by rw [hmatch]; rfl)
        exact absurd hlt hgt.not_gt

end Place
end AsmListing
