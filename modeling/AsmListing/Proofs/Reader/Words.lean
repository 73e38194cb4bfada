import Mathlib
import AsmListing.Proofs.Reader.Spelling
import AsmListing.Proofs.Text.Ascii
import AsmListing.Reader.Lexeme

/-! Reading the lexemes at the front of a text. What is read is stated together with the text that is
left, so that readings compose. -/
namespace AsmListing

/-- From a place the scanner takes the lexemes off the text and comes to another place, with the rest
of the text still to be read. -/
def Reads (place : Place) (cs : List Char) (ls : List Lexeme) (after : Place) (rest : List Char) : Prop :=
  Lexeme.scan place 0 cs = (Lexeme.scan after 0 rest).map (ls ++ ·)

namespace Reads
variable {place middle after : Place} {cs ds rest : List Char} {ls ms : List Lexeme}

theorem trans (h : Reads place cs ls middle ds) (h' : Reads middle ds ms after rest) :
    Reads place cs (ls ++ ms) after rest := by
  unfold Reads at *
  rw [h, h', Option.map_map]
  congr 1
  funext us
  simp

theorem gap (place : Place) (rest : List Char) : Reads place (' ' :: rest) [] place rest := by
  have hgap : isGap ' ' := rfl
  rw [Reads, Lexeme.scan, if_pos hgap]
  simp

/-- The scanner takes the lexeme that it finds at the front. -/
theorem lexeme {t : Terminal} {w : List Char} (hgap : w.head?.any isGap = false)
    (h : place.read? (w ++ rest) = some (t, after, w.length)) :
    Reads place (w ++ rest) [⟨t, String.ofList w⟩] after rest := by
  cases w with
  | nil =>
    obtain ⟨⟨t', after'⟩, -, hsome⟩ := List.exists_of_findSome?_eq_some h
    obtain ⟨n, hn, heq⟩ := Option.map_eq_some_iff.mp hsome
    cases heq
    exact absurd (Terminal.length?_pos hn) (lt_irrefl 0)
  | cons c w =>
    have hc : isGap c = false := by simpa using hgap
    have hdrop := Lexeme.scan_eq_scan_drop after w.length (w ++ rest)
    rw [List.drop_left] at hdrop
    rw [Reads, List.cons_append, Lexeme.scan, if_neg (by simp [hc]), ← List.cons_append, h]
    simp [hdrop]

end Reads

/-- The run of characters of a class at the front of a text ends where another character comes. -/
theorem takeWhile_append_eq {q : Char → Bool} {w rest : List Char} :
    (w ++ rest).takeWhile q = w ↔ (∀ c ∈ w, q c) ∧ rest.head?.any q = false := by
  constructor
  · intro h
    have hw : ∀ c ∈ w, q c := by
      intro c hc
      rw [← h] at hc
      exact List.mem_takeWhile_imp hc
    refine ⟨hw, ?_⟩
    rw [List.takeWhile_append_of_pos hw] at h
    cases rest with
    | nil => rfl
    | cons c rest =>
      have hnil := List.append_right_eq_self.mp h
      simpa [List.takeWhile_cons] using hnil
  · rintro ⟨hw, hrest⟩
    rw [List.takeWhile_append_of_pos hw]
    cases rest with
    | nil => simp
    | cons c rest =>
      have hc : q c = false := by simpa using hrest
      simp [hc]

namespace Terminal
variable {w rest : List Char}

/-- The characters that can follow a word in a written instruction. -/
def isStop (c : Char) : Bool := [' ', ',', ':', '*', '+', '-', ']'].contains c

/-- The text ends or goes on with a character that ends a word. -/
def Stops (rest : List Char) : Prop := rest.head?.all isStop

theorem isStop_cases {c : Char} (h : isStop c) : Text.isWordChar c = false ∧ isNameChar c = false := by
  simp only [isStop, List.contains_eq_mem, List.mem_cons, List.not_mem_nil, or_false,
    decide_eq_true_eq] at h
  rcases h with rfl | rfl | rfl | rfl | rfl | rfl | rfl <;> decide

theorem isNameLetter_ascii {c : Char} (h : c.toNat < 128) : isNameLetter c = c.isAlpha :=
  Text.forall_ascii (P := fun c => isNameLetter c = c.isAlpha) (by decide) h

theorem isNameLetter_of_isDigit {c : Char} (h : c.isDigit) : isNameLetter c = false :=
  Text.forall_ascii (P := fun c => c.isDigit → isNameLetter c = false) (by decide)
    (Text.toNat_lt_of_isDigit h) h

theorem isNameChar_of_isAlphanum {c : Char} (h : c.isAlphanum) : isNameChar c := by
  rw [isNameChar, isNameLetter_ascii (Text.toNat_lt_of_isAlphanum h)]
  exact h

theorem isGap_of_isAlphanum {c : Char} (h : c.isAlphanum) : isGap c = false :=
  Text.forall_ascii (P := fun c => c.isAlphanum → isGap c = false) (by decide)
    (Text.toNat_lt_of_isAlphanum h) h

theorem head_not_gap (hw : ∀ c ∈ w, c.isAlphanum) : w.head?.any isGap = false := by
  cases w with
  | nil => rfl
  | cons c w => exact isGap_of_isAlphanum (hw c List.mem_cons_self)

/-- A word ends where the text stops. -/
private theorem takeWhile_append {p : Char → Bool} (hw : ∀ c ∈ w, p c)
    (hrest : ∀ c, isStop c → p c = false) (hstop : Stops rest) : (w ++ rest).takeWhile p = w := by
  refine takeWhile_append_eq.mpr ⟨hw, ?_⟩
  cases rest with
  | nil => rfl
  | cons c cs => exact hrest c hstop

theorem wordOf_append (hw : ∀ c ∈ w, c.isAlphanum) (hstop : Stops rest) : wordOf (w ++ rest) = w :=
  takeWhile_append (fun c hc => Text.isWordChar_of_isAlphanum (hw c hc))
    (fun _ hc => (isStop_cases hc).1) hstop

theorem wordLength?_append {accepts : List Char → Bool} (hw : ∀ c ∈ w, c.isAlphanum)
    (hstop : Stops rest) :
    wordLength? accepts (w ++ rest) = if accepts w then some w.length else none := by
  rw [wordLength?, wordOf_append hw hstop]

theorem sizeLength?_append (hw : ∀ c ∈ w, c.isAlphanum) (hstop : Stops rest)
    (hnot : isOneOf sizeWords w = false) : sizeLength? (w ++ rest) = none := by
  simp [sizeLength?, wordOf_append hw hstop, hnot]

/-- The word for a size, a blank and the word `ptr` are one terminal. -/
theorem sizeLength?_ptr (hw : ∀ c ∈ w, c.isAlphanum) (hsize : isOneOf sizeWords w) (hstop : Stops rest) :
    sizeLength? (w ++ ' ' :: 'p' :: 't' :: 'r' :: rest) = some (w.length + 4) := by
  have hword : wordOf (w ++ ' ' :: 'p' :: 't' :: 'r' :: rest) = w := wordOf_append hw rfl
  have hptr : wordOf (['p', 't', 'r'] ++ rest) = ['p', 't', 'r'] := wordOf_append (by simp) hstop
  have hgap : (' ' :: 'p' :: 't' :: 'r' :: rest).takeWhile Text.isBlank = [' '] := rfl
  have hone : isOneOf ["ptr"] ['p', 't', 'r'] = true := by decide
  rw [sizeLength?, hword, List.drop_left, hgap, ← List.drop_drop, List.drop_left]
  simp only [List.length_singleton, List.drop_succ_cons, List.drop_zero]
  rw [show 'p' :: 't' :: 'r' :: rest = ['p', 't', 'r'] ++ rest from rfl, hptr]
  simp [hsize, hone]

theorem length?_name_append (hw : ∀ c ∈ w, c.isAlphanum) (hhead : w.head?.any Char.isAlpha)
    (hstop : Stops rest) : length? .name (w ++ rest) = some w.length := by
  have htake : (w ++ rest).takeWhile isNameChar = w :=
    takeWhile_append (fun c hc => isNameChar_of_isAlphanum (hw c hc))
      (fun _ hc => (isStop_cases hc).2) hstop
  cases w with
  | nil => cases hhead
  | cons c w =>
    have hc : isNameLetter c = c.isAlpha :=
      isNameLetter_ascii (Text.toNat_lt_of_isAlphanum (hw c List.mem_cons_self))
    have hletter : isNameLetter c := hc.trans hhead
    rw [length?, if_pos (by simpa using hletter), htake]

/-- A word that starts with a digit is none of the words that are looked for. -/
theorem isOneOf_of_isDigit {words : List String}
    (hwords : ∀ s ∈ words, s.toList.head?.all fun c => !c.isDigit) (hhead : w.head?.any Char.isDigit) :
    isOneOf words w = false := by
  by_contra hone
  cases w with
  | nil => cases hhead
  | cons c w =>
    have hdigit : c.isDigit := hhead
    have hfold : (foldLetter c).isDigit :=
      Text.forall_ascii (P := fun c => c.isDigit → (foldLetter c).isDigit) (by decide)
        (Text.toNat_lt_of_isDigit hdigit) hdigit
    have hmem : String.ofList ((c :: w).map foldLetter) ∈ words := by
      simpa [isOneOf] using hone
    have := hwords _ hmem
    simp [hfold] at this

end Terminal
end AsmListing
