import Mathlib
import AsmListing.Proofs.Grammar.Choice
import AsmListing.Proofs.Text.Trim

/-! Where lexemes end. Whether a lexeme goes on is seen from the character behind it, and no lexeme goes
on with a gap. -/
namespace AsmListing

namespace Terminal
variable {t : Terminal} {w rest : List Char} {c : Char}

/-- The characters with which a lexeme goes on. -/
def goesOn : Terminal → Char → Bool
  | .prefixWord | .sizeWord | .shortWord | .number => Text.isWordChar
  | .name => isNameChar
  | _ => fun _ => false

theorem goesOn_of_isGap (t : Terminal) (hc : isGap c) : t.goesOn c = false := by
  have hword := Text.isWordChar_of_isBlank (isBlank_of_isGap hc)
  have hname : isNameChar c = false := by
    by_contra hname
    rw [isWordChar_of_isNameChar (by simpa using hname)] at hword
    cases hword
  cases t with
  | prefixWord | sizeWord | shortWord | number => exact hword
  | name => exact hname
  | _ => rfl

private theorem wordLength?_whole {accepts : List Char → Bool} :
    wordLength? accepts w = some w.length ↔ accepts w ∧ ∀ c ∈ w, Text.isWordChar c := by
  have hwhole := @wordLength?_append_eq_some accepts w []
  rwa [List.append_nil, wordOf, List.takeWhile_eq_self_iff] at hwhole

private theorem wordLength?_append_iff {accepts : List Char → Bool} :
    wordLength? accepts (w ++ rest) = some w.length ↔
      wordLength? accepts w = some w.length ∧ rest.head?.any Text.isWordChar = false := by
  rw [wordLength?_append_eq_some, wordLength?_whole, wordOf, takeWhile_append_eq, and_assoc]

private theorem sizeLength?_append_eq_some : sizeLength? (w ++ rest) = some w.length ↔ ∃ a gap q,
    w = a ++ (gap ++ q) ∧ isOneOf sizeWords a ∧ (gap ≠ [] ∧ ∀ c ∈ gap, Text.isBlank c) ∧
      isOneOf ["ptr"] q ∧ (∀ c ∈ q, Text.isWordChar c) ∧ rest.head?.any Text.isWordChar = false := by
  simp only [sizeLength?_eq_some, wordOf, takeWhile_append_eq]
  constructor
  · rintro ⟨a, gap, q, rest', hcs, hsize, hgap, hptr, hlength⟩
    obtain ⟨rfl, rfl⟩ : w = a ++ (gap ++ q) ∧ rest = rest' :=
      List.append_inj (by simpa using hcs) hlength
    exact ⟨a, gap, q, rfl, hsize, hgap, hptr⟩
  · rintro ⟨a, gap, q, rfl, hsize, hgap, hptr⟩
    exact ⟨a, gap, q, rest, by simp, hsize, hgap, hptr, rfl⟩

private theorem sizeLength?_whole : sizeLength? w = some w.length ↔ ∃ a gap q,
    w = a ++ (gap ++ q) ∧ isOneOf sizeWords a ∧ (gap ≠ [] ∧ ∀ c ∈ gap, Text.isBlank c) ∧
      isOneOf ["ptr"] q ∧ ∀ c ∈ q, Text.isWordChar c := by
  have hwhole := @sizeLength?_append_eq_some w []
  simpa using hwhole

private theorem sizeLength?_append_iff : sizeLength? (w ++ rest) = some w.length ↔
    sizeLength? w = some w.length ∧ rest.head?.any Text.isWordChar = false := by
  rw [sizeLength?_append_eq_some, sizeLength?_whole]
  constructor
  · rintro ⟨a, gap, q, hw, hsize, hgap, hptr, hq, hrest⟩
    exact ⟨⟨a, gap, q, hw, hsize, hgap, hptr, hq⟩, hrest⟩
  · rintro ⟨⟨a, gap, q, hw, hsize, hgap, hptr, hq⟩, hrest⟩
    exact ⟨a, gap, q, hw, hsize, hgap, hptr, hq, hrest⟩

theorem nameLength?_append_eq_some : length? .name (w ++ rest) = some w.length ↔
    w.head?.any isNameLetter ∧ (w ++ rest).takeWhile isNameChar = w := by
  rw [length?]
  constructor
  · intro h
    split at h
    · next hhead =>
      have hw := takeWhile_eq_of_length (Option.some.inj h)
      refine ⟨?_, hw⟩
      cases w with
      | nil =>
        cases rest with
        | nil => cases hhead
        | cons c rest =>
          have hc : isNameLetter c := hhead
          simp [isNameChar, hc] at hw
      | cons c w => exact hhead
    · cases h
  · rintro ⟨hhead, hw⟩
    cases w with
    | nil => cases hhead
    | cons c w =>
      have hc : ((c :: w) ++ rest).head?.any isNameLetter := hhead
      rw [if_pos hc, hw]

private theorem nameLength?_whole : length? .name w = some w.length ↔
    w.head?.any isNameLetter ∧ ∀ c ∈ w, isNameChar c := by
  have hwhole := @nameLength?_append_eq_some w []
  rwa [List.append_nil, List.takeWhile_eq_self_iff] at hwhole

private theorem nameLength?_append_iff : length? .name (w ++ rest) = some w.length ↔
    length? .name w = some w.length ∧ rest.head?.any isNameChar = false := by
  rw [nameLength?_append_eq_some, nameLength?_whole, takeWhile_append_eq, and_assoc]

private theorem charLength?_append_iff {accepts : Char → Bool} :
    charLength? accepts (w ++ rest) = some w.length ↔ charLength? accepts w = some w.length := by
  cases w with
  | nil => cases rest <;> simp [charLength?]
  | cons c w => rfl

private theorem decoratorLength?_append_iff :
    length? .decorator (w ++ rest) = some w.length ↔ length? .decorator w = some w.length := by
  rw [length?, length?]
  by_cases hw : w.length = 8
  · rw [List.take_left' hw, List.take_of_length_le hw.le]
  · have hne (p : Prop) [Decidable p] : (if p then some 8 else none) ≠ some w.length := by
      split <;> simp [Ne.symm hw]
    exact iff_of_false (hne _) (hne _)

/-- A lexeme is taken off a text if it is one by itself and does not go on. -/
theorem length?_append_iff : t.length? (w ++ rest) = some w.length ↔
    t.length? w = some w.length ∧ rest.head?.any t.goesOn = false := by
  have hends : rest.head?.any (fun _ => false) = false := by cases rest <;> rfl
  cases t with
  | prefixWord | shortWord | number => exact wordLength?_append_iff
  | sizeWord => exact sizeLength?_append_iff
  | name => exact nameLength?_append_iff
  | decorator => exact decoratorLength?_append_iff.trans (and_iff_left hends).symm
  | sign | comma | colon | star | less | greater | openBracket | closeBracket =>
    exact charLength?_append_iff.trans (and_iff_left hends).symm

private theorem getLast?_word (hne : w ≠ []) (hw : ∀ c ∈ w, Text.isWordChar c) :
    w.getLast?.any fun c => !Text.isBlank c := by
  have hlast := Text.isBlank_of_isWordChar (hw _ (List.getLast_mem hne))
  rw [List.getLast?_eq_some_getLast hne, Option.any_some, hlast]
  rfl

private theorem getLast?_char {accepts : Char → Bool} (h : charLength? accepts w = some w.length)
    (haccepts : ∀ c, accepts c → Text.isBlank c = false) : w.getLast?.any fun c => !Text.isBlank c := by
  cases w with
  | nil => cases h
  | cons c w =>
    rw [charLength?] at h
    split at h
    · next hc =>
      obtain rfl : w = [] := List.length_eq_zero_iff.mp (Nat.succ.inj (Option.some.inj h)).symm
      rw [List.getLast?_singleton, Option.any_some, haccepts c hc]
      rfl
    · cases h

private theorem getLast?_decorator (h : length? .decorator w = some w.length) :
    w.getLast?.any fun c => !Text.isBlank c := by
  rw [length?] at h
  split at h
  · next hone =>
    rw [List.take_of_length_le (Option.some.inj h).ge] at hone
    obtain ⟨s, hs, heq⟩ := isOneOf_iff.mp hone
    have hall : decorators.all fun s => s.toList.getLast? == some '\x7d' := by decide
    have hlast : s.toList.getLast? = some '\x7d' := beq_iff_eq.mp (List.all_eq_true.mp hall s hs)
    rw [← heq, List.getLast?_map] at hlast
    obtain ⟨c, hc, hfold⟩ := Option.map_eq_some_iff.mp hlast
    rw [hc, eq_of_foldLetter_eq (by decide) hfold]
    rfl
  · cases h

private theorem getLast?_lexeme (h : t.length? w = some w.length) :
    w.getLast?.any fun c => !Text.isBlank c := by
  have hne : w ≠ [] := List.ne_nil_of_length_pos (length?_pos h)
  cases t with
  | prefixWord | shortWord | number => exact getLast?_word hne (wordLength?_whole.mp h).2
  | name => exact getLast?_word hne fun c hc => isWordChar_of_isNameChar ((nameLength?_whole.mp h).2 c hc)
  | sizeWord =>
    obtain ⟨a, gap, q, rfl, -, -, hptr, hq⟩ := sizeLength?_whole.mp h
    have hne : q ≠ [] := by
      rintro rfl
      cases hptr
    rw [List.getLast?_append_of_ne_nil _ (by simp [hne]), List.getLast?_append_of_ne_nil _ hne]
    exact getLast?_word hne hq
  | decorator => exact getLast?_decorator h
  | sign =>
    refine getLast?_char h fun c hc => ?_
    rcases Bool.or_eq_true_iff.mp hc with hc | hc <;> rw [beq_iff_eq.mp hc] <;> decide
  | comma | colon | star | less | greater | openBracket | closeBracket =>
    refine getLast?_char h fun c hc => ?_
    rw [beq_iff_eq.mp hc]
    decide

/-- A lexeme neither starts nor ends with a blank. -/
theorem IsTaken.isTrimmed {read : List Terminal} (h : t.IsTaken read (w ++ rest) w.length) :
    Text.IsTrimmed w := by
  refine ⟨?_, getLast?_lexeme (length?_append_iff.mp h.length?_eq).1⟩
  cases w with
  | nil => exact absurd h.pos (lt_irrefl 0)
  | cons c w => simp [isBlank_of_length? h.length?_eq]

/-- If a terminal matches where another one is not preferred to it, it is a keyword and the other a
name. -/
theorem keyword_of_length? {u : Terminal} {cs : List Char} {m n : Nat} (hu : u.length? cs = some m)
    (ht : t.length? cs = some n) (hne : u ≠ t) (hle : ¬u.priority < t.priority) :
    u.priority ≠ 0 ∧ t = .name := by
  have hkeyword : u.priority ≠ 0 ∧ t.priority = 0 := by
    have hdiffer : u.priority ≠ t.priority := fun heq => hne (eq_of_length? heq hu ht)
    have htwo (v : Terminal) : v.priority = 0 ∨ v.priority = 2 := by cases v <;> decide
    have hu := htwo u
    have ht := htwo t
    omega
  obtain ⟨k, hk⟩ := exists_name_of_keyword hkeyword.1 hu
  exact ⟨hkeyword.1, eq_of_length? hkeyword.2 ht hk⟩

/-- Keywords are seen from the word in front. Only a size goes on behind it, with another word. -/
theorem keyword_of_wordOf {rest' : List Char} {n : Nat} (ht : t.priority ≠ 0)
    (hword : wordOf (w ++ rest) = w) (hword' : wordOf (w ++ rest') = w)
    (hsize : t = .sizeWord → (rest'.dropWhile Text.isBlank).head?.any Text.isWordChar = false)
    (h : t.length? (w ++ rest') = some n) : t.length? (w ++ rest) = some n := by
  cases t with
  | prefixWord | shortWord =>
    rw [length?, wordLength?, hword'] at h
    rw [length?, wordLength?, hword, h]
  | sizeWord =>
    obtain ⟨a, gap, q, ds, hcs, hone, hgap, ⟨hptr, hq⟩, -⟩ := sizeLength?_eq_some.mp h
    rw [hcs, wordOf_size hone hgap] at hword'
    rw [hword', List.append_cancel_left_eq] at hcs
    have hnone := hsize rfl
    rw [hcs, List.dropWhile_append_of_pos hgap.2] at hnone
    cases q with
    | nil => cases hptr
    | cons c q =>
      have hc : Text.isWordChar c := (takeWhile_append_eq.mp hq).1 c List.mem_cons_self
      simp [Text.isBlank_of_isWordChar hc, hc] at hnone
  | _ => exact absurd rfl ht

end Terminal
end AsmListing
