import Mathlib
import AsmListing.Proofs.Grammar.Acceptance

/-! What the texts of lexemes stand for. A prefix lexeme names a prefix, a number lexeme spells a
number, a size lexeme names a size, and a decorator names a rounding control unless it has a long s. -/
namespace AsmListing
open Terminal (isOneOf foldLetter wordOf)

namespace Terminal
variable {ws : List String} {w rest : List Char}

/-- Without a long s, what counts as ASCII is lowered letter by letter. -/
private theorem lower_eq_fold (hs : '\u017f' ∉ w) (hascii : Text.IsAscii (w.map foldLetter)) :
    Text.lower (String.ofList w) = String.ofList (w.map foldLetter) := by
  have hone : ∀ c ∈ w, c ≠ '\u03a3' ∧ Text.lowerChar c = [foldLetter c] := by
    intro c hc
    have hfolded := hascii _ (List.mem_map_of_mem hc)
    exact forall_folded (P := fun c => c ≠ '\u017f' → c ≠ '\u03a3' ∧ Text.lowerChar c = [foldLetter c])
      (by decide) (fun h => absurd rfl h) (fun _ => by decide) hfolded (ne_of_mem_of_not_mem hc hs)
  have hsigma : '\u03a3' ∉ w := fun hc => (hone _ hc).1 rfl
  rw [Text.lower, String.toList_ofList, Text.lowerFrom_eq_flatMap false hsigma,
    ← List.flatMap_pure_eq_map]
  exact congrArg String.ofList (List.flatMap_congr fun c hc => (hone c hc).2)

private theorem isAscii_fold (hws : ws.all fun s => s.toList.all fun c => c.toNat < 128)
    (h : isOneOf ws w) : Text.IsAscii (w.map foldLetter) := by
  obtain ⟨s, hmem, heq⟩ := isOneOf_iff.mp h
  rw [heq]
  intro c hc
  simpa using List.all_eq_true.mp (List.all_eq_true.mp hws s hmem) c hc

/-- A word of the list becomes a member of it. -/
private theorem lower_mem (hws : ws.all fun s => s.toList.all fun c => c.toNat < 128)
    (hs : '\u017f' ∉ w) (h : isOneOf ws w) : Text.lower (String.ofList w) ∈ ws := by
  rw [lower_eq_fold hs (isAscii_fold hws h)]
  simpa [isOneOf] using h

/-- A character that counts as a letter of no word of the list. -/
private theorem notMem_of_isOneOf {c : Char} (hws : ws.all fun s => !s.toList.contains (foldLetter c))
    (h : isOneOf ws w) : c ∉ w := by
  obtain ⟨s, hmem, heq⟩ := isOneOf_iff.mp h
  intro hc
  have hnot := List.all_eq_true.mp hws s hmem
  rw [← heq, Bool.not_eq_true', List.contains_eq_mem, decide_eq_false_iff_not] at hnot
  exact hnot (List.mem_map_of_mem hc)

private theorem ofWord?_of_length? (h : length? .prefixWord (w ++ rest) = some w.length) :
    (Prefix.ofWord? (Text.lower (String.ofList w))).isSome := by
  have hword := (wordLength?_append_eq_some.mp h).1
  have hs := notMem_of_isOneOf (c := '\u017f') (by decide) hword
  have hall : ∀ s ∈ prefixWords, (Prefix.ofWord? s).isSome := by decide
  exact hall _ (lower_mem (by decide) hs hword)

private theorem isOneOf_of_length? (h : length? .decorator (w ++ rest) = some w.length) :
    isOneOf decorators w := by
  simp only [length?] at h
  split at h
  · next hone => rwa [List.take_left' (Option.some.inj h).symm] at hone
  · cases h

private theorem memorySize_of_length? (h : length? .sizeWord (w ++ rest) = some w.length) :
    memorySize (String.ofList w) ∈ ([1, 2, 4, 8, 16] : List Int) := by
  obtain ⟨a, gap, q, rest', hcs, hsize, hgap, -, hlength⟩ := sizeLength?_eq_some.mp h
  obtain ⟨rfl, -⟩ : w = a ++ (gap ++ q) ∧ rest = rest' := List.append_inj (by simpa using hcs) hlength
  have hs := notMem_of_isOneOf (c := '\u017f') (by decide) hsize
  have hmem := lower_mem (by decide) hs hsize
  rw [memorySize, String.toList_ofList, wordOf_size hsize hgap]
  simp only [sizeWords, List.mem_cons, List.not_mem_nil, or_false] at hmem
  rcases hmem with h | h | h | h | h <;> rw [h] <;> decide

end Terminal

/-- A decorator without a long s names a rounding control. -/
theorem exists_readRounding {text : String} (h : isOneOf Terminal.decorators text.toList)
    (hs : '\u017f' ∉ text.toList) : ∃ r, readRounding text = .ok r := by
  obtain ⟨s, hmem, heq⟩ := Terminal.isOneOf_iff.mp h
  have hall : ∀ s ∈ Terminal.decorators,
      (Rounding.ofWord? (String.ofList (s.toList.drop 1).dropLast)).isSome := by
    decide
  have hinner : (text.toList.drop 1).dropLast ⊆ text.toList :=
    fun c hc => List.mem_of_mem_drop (List.dropLast_subset _ hc)
  have hword : Text.lower (String.ofList (text.toList.drop 1).dropLast) =
      String.ofList (s.toList.drop 1).dropLast := by
    rw [Terminal.lower_eq_fold fun hc => hs (hinner hc), ← heq, ← List.map_drop, List.map_dropLast]
    exact fun c hc => Terminal.isAscii_fold (by decide) h c (List.map_subset _ hinner hc)
  obtain ⟨r, hr⟩ := Option.isSome_iff_exists.mp (hall s hmem)
  refine ⟨r, ?_⟩
  simp only [readRounding, hword, hr]

namespace Lexeme

/-- The text of the lexeme can be converted, as far as its terminal says. -/
def Fits (l : Lexeme) : Prop :=
  match l.terminal with
  | .number => Terminal.isNumber l.text.toList
  | .decorator => isOneOf Terminal.decorators l.text.toList
  | .sizeWord => memorySize l.text ∈ ([1, 2, 4, 8, 16] : List Int)
  | .prefixWord => (Prefix.ofWord? (Text.lower l.text)).isSome
  | _ => True

/-- The lexemes into which a text is cut fit, and are made of characters of the text. -/
theorem Cut.fits {read : List Terminal} {cs : List Char} {ls : List Lexeme} (h : Cut read cs ls) :
    ∀ l ∈ ls, l.Fits ∧ ∀ c ∈ l.text.toList, c ∈ cs := by
  induction h with
  | done => simp
  | @take read gaps w rest t ls hgaps htaken hrest ih =>
    intro l hl
    rcases List.mem_cons.mp hl with rfl | hl
    · have hmatch := htaken.length?_eq
      refine ⟨?_, fun c hc => ?_⟩
      · cases t with
        | number => simpa [Fits] using (Terminal.wordLength?_append_eq_some.mp hmatch).1
        | decorator => simpa [Fits] using Terminal.isOneOf_of_length? hmatch
        | sizeWord => exact Terminal.memorySize_of_length? hmatch
        | prefixWord => exact Terminal.ofWord?_of_length? hmatch
        | _ => trivial
      · rw [String.toList_ofList] at hc
        simp [hc]
    · obtain ⟨hfits, hmem⟩ := ih l hl
      exact ⟨hfits, fun c hc => by simp [hmem c hc]⟩

end Lexeme

/-- The numbers of the summand are numbers. -/
def Term.Fits : Term → Prop
  | .register _ => True
  | .scaled _ factor => Terminal.isNumber factor.toList
  | .number text => Terminal.isNumber text.toList

/-- The words of the operand can be converted, names of registers apart. -/
def Phrase.Fits : Phrase → Prop
  | .register _ => True
  | .number _ text | .shortBranch text => Terminal.isNumber text.toList
  | .decorator text => isOneOf Terminal.decorators text.toList
  | .memory size _ first more => (∀ z ∈ size, memorySize z ∈ ([1, 2, 4, 8, 16] : List Int)) ∧
      first.Fits ∧ ∀ x ∈ more, x.2.Fits

private theorem Term.Derives.fits {t : Term} {ls : List Lexeme} (h : t.Derives ls)
    (hls : ∀ l ∈ ls, l.Fits) : t.Fits := by
  cases h with
  | scaled r star k => exact hls ⟨.number, k⟩ (by simp)
  | register r => trivial
  | number n => exact hls ⟨.number, n⟩ (by simp)

private theorem Phrase.MoreDerive.fits {more : List (Sign × Term)} {ls : List Lexeme}
    (h : MoreDerive more ls) (hls : ∀ l ∈ ls, l.Fits) : ∀ x ∈ more, x.2.Fits := by
  induction h with
  | nil => simp
  | cons s first _ ih =>
    refine List.forall_mem_cons.mpr ⟨first.fits fun l hl => ?_, ih fun l hl => ?_⟩
    · exact hls l (by simp [hl])
    · exact hls l (by simp [hl])

theorem Phrase.Derives.fits {p : Phrase} {ls : List Lexeme} (h : p.Derives ls)
    (hls : ∀ l ∈ ls, l.Fits) : p.Fits := by
  cases h with
  | register r => trivial
  | number n => exact hls ⟨.number, n⟩ (by simp)
  | signed s n => exact hls ⟨.number, n⟩ (by simp)
  | shortBranch w n => exact hls ⟨.number, n⟩ (by simp)
  | decorator d => exact hls ⟨.decorator, d⟩ (by simp)
  | @memory o c size segment first more zs ss as ms hsize hsegment hfirst hmore =>
    refine ⟨fun z hz => ?_, hfirst.fits fun l hl => hls l (by simp [hl]),
      hmore.fits fun l hl => hls l (by simp [hl])⟩
    cases hsize with
    | none => cases hz
    | some s =>
      rw [← Option.mem_some_iff.mp hz]
      exact hls ⟨.sizeWord, s⟩ (by simp)

namespace Sentence
variable {s : Sentence} {ls : List Lexeme} {p : OperandPhrase}

private theorem OperandsDerive.exists_derives {ps : List OperandPhrase} (h : OperandsDerive ps ls)
    (hp : p ∈ ps) : ∃ ms ⊆ ls, p.phrase.Derives ms := by
  have hone {q : OperandPhrase} {ms : List Lexeme} (hq : q.Derives ms) :
      ∃ ns ⊆ ms, q.phrase.Derives ns := by
    cases hq with
    | @implicit l g q ns h => exact ⟨ns, by simp, h⟩
    | explicit h => exact ⟨_, List.Subset.refl _, h⟩
  induction h with
  | last h =>
    rw [List.mem_singleton.mp hp]
    exact hone h
  | cons c first _ ih =>
    rcases List.mem_cons.mp hp with rfl | hp
    · obtain ⟨ns, hns, hq⟩ := hone first
      exact ⟨ns, fun l hl => by simp [hns hl], hq⟩
    · obtain ⟨ns, hns, hq⟩ := ih hp
      exact ⟨ns, fun l hl => by simp [hns hl], hq⟩

/-- Each operand derives from some of the lexemes. -/
theorem Derives.exists_derives (h : s.Derives ls) (hp : p ∈ s.operands) :
    ∃ ms ⊆ ls, p.phrase.Derives ms := by
  cases h with
  | bare words m => cases hp
  | operands words m h =>
    obtain ⟨ms, hms, hq⟩ := h.exists_derives hp
    exact ⟨ms, fun l hl => by simp [hms hl], hq⟩

end Sentence
end AsmListing
