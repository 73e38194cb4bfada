import Mathlib
import AsmListing.Proofs.Formatter.Totality
import AsmListing.Proofs.Reader.Sentences
import AsmListing.Proofs.RoundTrip.Memory

/-! The text of an instruction whose operands are all shown: it is the spelling of its prefixes, its
mnemonic and the phrases for its operands. -/
namespace AsmListing

theorem Token.toList_textOf (ts : List Token) : (textOf ts).toList = ts.flatMap (·.text.toList) := by
  rw [textOf, String.toList_join, List.flatMap_map]

namespace Formatter
open Emission
variable {d : Dialect} {signed : Bool} {i : Instruction}

/-- From the text of an operand of a kind that is read, an operand of that kind is read. -/
theorem exists_phrase (hd : d.Plain) {mnemonic : String} {size : Int} {op : Operand}
    (h : op.Readable mnemonic size) :
    ∃ p, Rewrites (plain d signed) mnemonic size op (op.reread signed) p := by
  cases h with
  | register implicit hn => exact rewrites_register hd implicit hn
  | immediate hplain hsize hlow hhigh hsigned =>
    exact rewrites_immediate hd hplain hsize hlow hhigh hsigned
  | branch hshort hlow hhigh => exact rewrites_branch hd hshort hlow hhigh
  | memory implicit hc => exact rewrites_memory hd implicit hc

/-- The operands are written one after the other, slot by slot. -/
theorem operandList_eq_join {f : Formatter} (h : ¬f.Inexpressible i) :
    f.operandList i = join f.separator ((f.slots i).map (f.slot i)) := by
  rw [operandList]
  congr 1
  refine List.ext_getElem (by simp [operandCount, layout, Layout.size]) fun k hk hk' => ?_
  have hlt : k < (f.slots i).length := by simpa using hk'
  rw [List.getElem_map, List.getElem_map, List.getElem_range]
  exact operand_eq_slot h hlt

/-- Where operands are not reversed, the rounding control comes after them. -/
private theorem slots_eq_append {f : Formatter} (hreverse : f.dialect.reverseOperands = false)
    (hfirst : f.dialect.decorator ≠ .first) (h : ¬f.Inexpressible i) :
    f.slots i = f.operandSlots i ++ i.rounding.toList.map fun r => .synthetic ⟨r.decorator, .none⟩ := by
  rw [slots, hreverse]
  cases hr : i.rounding with
  | none => exact (List.append_nil _).symm
  | some r =>
    cases hdec : f.dialect.decorator with
    | first => exact absurd hdec hfirst
    | last => rfl
    | unsupported => exact absurd ⟨by simp [hr], hdec⟩ h

/-- The slots of an instruction whose operands are all shown. -/
theorem map_slot_eq {f : Formatter} (hreverse : f.dialect.reverseOperands = false)
    (hfirst : f.dialect.decorator ≠ .first) (h : ¬f.Inexpressible i)
    (hshown : ∀ op ∈ i.operands, f.dialect.showImplicit || !op.implicit) :
    (f.slots i).map (f.slot i) = i.operands.map f.realOperand ++ i.rounding.toList.map fun r =>
      write .decorator (f.cased f.options.uppercaseDecorators r.decorator) := by
  have hall : (i.operands.zipIdx.filter fun x => f.dialect.showImplicit || !x.1.implicit) =
      i.operands.zipIdx := by
    rw [List.filter_eq_self]
    intro x hmem
    exact hshown x.1 (List.mem_of_getElem? (List.mem_zipIdx_iff_getElem?.mp hmem))
  have hreal : (f.operandSlots i).map (f.slot i) = i.operands.map f.realOperand := by
    rw [operandSlots, hall, List.map_map]
    refine List.ext_getElem (by simp) fun k hk hk' => ?_
    have hlt : k < i.operands.length := by simpa using hk'
    have hop : i.operand (k : Int) = .ok (i.operands.get ⟨k, hlt⟩) := by
      rw [Instruction.operand, if_neg (by omega), Int.toNat_natCast, List.getElem?_eq_getElem hlt]
      rfl
    simp only [List.getElem_map, List.getElem_zipIdx, Function.comp_apply, slot, Nat.zero_add, hop]
    rfl
  rw [slots_eq_append hreverse hfirst h, List.map_append, hreal, List.map_map]
  rfl

theorem join_eq_ofTokens {es : List Emission} {ps : List Phrase} (h : List.Forall₂ Writes es ps) :
    ∃ ts, join (write .separator ",") es = ofTokens ts ∧
      ts.flatMap (·.text.toList) = Phrase.listSpelling ps := by
  induction h with
  | nil => exact ⟨[], rfl, rfl⟩
  | @cons e p es ps he hes ih =>
    obtain ⟨ts, rfl, hts⟩ := he
    cases hes with
    | nil => exact ⟨ts, rfl, hts⟩
    | @cons e' p' es ps he' hes' =>
      obtain ⟨us, hus, htext⟩ := ih
      refine ⟨ts ++ ⟨.separator, ","⟩ :: us, ?_, ?_⟩
      · have hjoin : join (write .separator ",") (ofTokens ts :: e' :: es) =
            ofTokens ts ++ write .separator "," ++ join (write .separator ",") (e' :: es) := rfl
        rw [hjoin, hus, write_eq_ofTokens, ofTokens_append, ofTokens_append, List.append_assoc]
        rfl
      · simp [hts, htext, Phrase.listSpelling]

private theorem decorator_writes (f : Formatter)
    (hcase : ∀ text, f.cased f.options.uppercaseDecorators text = text) (r : Rounding) :
    Writes (write .decorator (f.cased f.options.uppercaseDecorators r.decorator))
      (.decorator r.decorator) := by
  rw [hcase]
  exact ⟨_, rfl, by simp [Phrase.spelling]⟩

/-- Prefixes and mnemonic, and a space if operands follow. -/
private theorem mnemonicTokens_text (d : Dialect) (signed : Bool) (i : Instruction) :
    ((plain d signed).mnemonicTokens i {}).flatMap (·.text.toList) =
      i.prefixes.toList.flatMap (fun p => p.word.toList ++ [' ']) ++ (i.mnemonic.toList ++
        if (plain d signed).operandCount i = 0 then [] else [' ']) := by
  have hcase (text : String) : (plain d signed).cased false text = text := rfl
  have hcolumn : (plain d signed).options.firstOperandColumn = 0 := rfl
  have hprefixes : (plain d signed).options.uppercasePrefixes = false := rfl
  have hmnemonics : (plain d signed).options.uppercaseMnemonics = false := rfl
  have hhead : (((i.prefixes.toList.map fun p => Token.mk .prefixWord p.word).flatMap fun w =>
      [w, space]) ++ [Token.mk .mnemonic i.mnemonic]).flatMap (·.text.toList) =
      i.prefixes.toList.flatMap (fun p => p.word.toList ++ [' ']) ++ i.mnemonic.toList := by
    simp [List.flatMap_map, List.flatMap_assoc, space]
  simp only [mnemonicTokens, if_true, hprefixes, hmnemonics, hcase, hcolumn, Nat.zero_sub]
  split
  · simpa using hhead
  · rw [List.flatMap_append, hhead]
    simp

/-- The text of the instruction, given phrases for its operands. -/
theorem instruction_text (hd : d.Plain) (h : ¬(plain d signed).Inexpressible i)
    (hshown : ∀ op ∈ i.operands, d.showImplicit || !op.implicit) {ps : List Phrase}
    (hps : List.Forall₂ (fun op p => ((plain d signed).realOperand op).Writes p) i.operands ps) :
    ((plain d signed).instruction i).failure = none ∧
      ((plain d signed).instruction i).text = String.ofList (Sentence.spelling i.prefixes.toList i.mnemonic
        (ps ++ i.rounding.toList.map fun r => .decorator r.decorator)) := by
  have hlist : ∃ ts, (plain d signed).operandList i = ofTokens ts ∧ ts.flatMap (·.text.toList) =
      Phrase.listSpelling (ps ++ i.rounding.toList.map fun r => .decorator r.decorator) := by
    rw [operandList_eq_join h, map_slot_eq hd.reverseOperands hd.decorator h hshown]
    refine join_eq_ofTokens (List.rel_append ?_ ?_)
    · exact List.forall₂_map_left_iff.mpr hps
    · cases i.rounding with
      | none => exact .nil
      | some r => exact .cons (decorator_writes _ (fun _ => rfl) r) .nil
  obtain ⟨ts, hts, htext⟩ := hlist
  have hwritten : (plain d signed).instruction i =
      ofTokens ((plain d signed).mnemonicTokens i {} ++ ts) := by
    rw [instruction, mnemonicThenOperands, allOperands, checkRounding_of_expressible h, empty_append,
      empty_append, mnemonic, hts, ofTokens_append]
  have hcount : (plain d signed).operandCount i = 0 ↔
      ps ++ (i.rounding.toList.map fun r => Phrase.decorator r.decorator) = [] := by
    have hslots := congrArg List.length
      (map_slot_eq (f := plain d signed) hd.reverseOperands hd.decorator h hshown)
    have hlength := hps.length_eq
    rw [← List.length_eq_zero_iff, List.length_append]
    simp only [List.length_map, List.length_append] at hslots ⊢
    rw [operandCount, layout, Layout.size, hslots, hlength]
  refine ⟨by rw [hwritten]; rfl, ?_⟩
  rw [hwritten, Emission.text, tokens_ofTokens, ← String.ofList_toList (s := Token.textOf _),
    Token.toList_textOf, List.flatMap_append, mnemonicTokens_text, htext, Sentence.spelling,
    Sentence.operandsSpelling]
  congr 1
  by_cases hnone : ps ++ (i.rounding.toList.map fun r => Phrase.decorator r.decorator) = []
  · simp only [hcount.mpr hnone, hnone, if_true, Phrase.listSpelling, List.append_nil]
  · simp only [mt hcount.mp hnone, hnone, if_false, List.append_assoc, List.cons_append,
      List.nil_append]

end Formatter
end AsmListing
