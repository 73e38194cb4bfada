import Mathlib
import AsmListing.Formatter.Basic
import AsmListing.Proofs.Emission

/-! The mnemonic phase. It writes the prefixes and the mnemonic with single spaces between them, and one
more space token that leads to the column of the first operand. Written apart, the prefixes and the
mnemonic give the same tokens but for the spaces. -/
namespace AsmListing

/-- Only the last four bits of a mask stand for prefixes. -/
theorem PrefixMask.toList_eq_of_emod {mask mask' : PrefixMask} (h : mask.bits % 16 = mask'.bits % 16) :
    mask.toList = mask'.toList := by
  apply List.filter_congr
  intro p _
  have hbit : mask.bits / p.bit % 2 = mask'.bits / p.bit % 2 := by
    cases p <;> simp only [Prefix.bit] <;> omega
  rw [has, has, hbit]

namespace Token

theorem textOf_cons (t : Token) (ts : List Token) : textOf (t :: ts) = t.text ++ textOf ts := by
  simp [textOf]

theorem textOf_singleton (t : Token) : textOf [t] = t.text := by
  simp [textOf]

theorem textOf_append (ts us : List Token) : textOf (ts ++ us) = textOf ts ++ textOf us := by
  simp [textOf]

end Token

namespace Formatter

/-- With a space behind each word there is one more than with spaces between them. -/
theorem flatMap_space (ws : List Token) : ws.flatMap (fun w => [w, space]) =
    ws.intersperse space ++ if ws = [] then [] else [space] := by
  induction ws with
  | nil => rfl
  | cons w ws ih =>
    cases ws with
    | nil => rfl
    | cons v ws =>
      rw [List.flatMap_cons, ih, List.intersperse_cons_cons]
      simp

theorem head?_intersperse_space (ws : List Token) : (ws.intersperse space).head? = ws.head? := by
  cases ws with
  | nil => rfl
  | cons w ws => cases ws <;> rfl

theorem getLast?_intersperse_space (ws : List Token) :
    (ws.intersperse space).getLast? = ws.getLast? := by
  induction ws with
  | nil => rfl
  | cons w ws ih =>
    cases ws with
    | nil => rfl
    | cons v ws =>
      have hne : (v :: ws).intersperse space ≠ [] := by cases ws <;> simp
      rw [List.intersperse_cons_cons, List.getLast?_cons_cons, List.getLast?_cons_of_ne_nil hne, ih,
        List.getLast?_cons_cons]

/-- The text of words with a space behind each of them but the last. -/
theorem textOf_flatMap_space (ws : List Token) (last : Token) :
    Token.textOf (ws.flatMap (fun w => [w, space]) ++ [last]) =
      " ".intercalate (ws.map Token.text ++ [last.text]) := by
  induction ws with
  | nil => simp [Token.textOf]
  | cons w ws ih =>
    have hne : ws.map Token.text ++ [last.text] ≠ [] := by simp
    rw [List.flatMap_cons, List.append_assoc, List.cons_append, List.singleton_append, Token.textOf_cons,
      Token.textOf_cons, ih, List.map_cons, List.cons_append, String.intercalate_cons_of_ne_nil hne,
      String.append_assoc]
    rfl

/-- The parts of a phase that writes the prefixes only. -/
def MnemonicParts.withoutMnemonic : MnemonicParts := { mnemonic := false }

/-- The parts of a phase that writes the mnemonic only. -/
def MnemonicParts.withoutPrefixes : MnemonicParts := { prefixes := false }

section Phase
variable (f : Formatter) (i : Instruction)

/-- The known prefixes as they are written. -/
def prefixTokens : List Token :=
  i.prefixes.toList.map fun p => ⟨.prefixWord, f.cased f.options.uppercasePrefixes p.word⟩

/-- The mnemonic as it is written. -/
def nameToken : Token := ⟨.mnemonic, f.cased f.options.uppercaseMnemonics i.mnemonic⟩

/-- The prefixes and the mnemonic as they are written, with single spaces between them. -/
def heading : String := " ".intercalate ((f.prefixTokens i).map Token.text ++ [(f.nameToken i).text])

/-- The token that leads from a text of the given length to the operands, if there are any: up to their
column, but by at least one space. -/
def padding (length : Nat) : List Token :=
  if f.operandCount i = 0 then []
  else [⟨.space, String.ofList
    (List.replicate (max (length + 1) f.options.firstOperandColumn - length) ' ')⟩]

/-- The tokens of a mnemonic phase without the last one, which leads to the operands if there are any. -/
def unpadded (ts : List Token) : List Token := if f.operandCount i = 0 then ts else ts.dropLast

theorem unpadded_append_padding (ts : List Token) (length : Nat) :
    f.unpadded i (ts ++ f.padding i length) = ts := by
  rw [unpadded, padding]
  split
  · exact List.append_nil ts
  · exact List.dropLast_concat

theorem length_add_padding (length : Nat) : length + (Token.textOf (f.padding i length)).length =
    if f.operandCount i = 0 then length else max (length + 1) f.options.firstOperandColumn := by
  rw [padding]
  split
  · rfl
  · rw [Token.textOf_singleton, String.length_ofList, List.length_replicate]
    omega

/-- The mnemonic is written behind the prefixes, if they are asked for, each with a space behind it. -/
private theorem mnemonicTokens_eq {withPrefixes : Bool} {words : List Token}
    (hwords : (if withPrefixes then f.prefixTokens i else []) = words) :
    f.mnemonicTokens i { prefixes := withPrefixes } =
      words.flatMap (fun w => [w, space]) ++ [f.nameToken i] ++
        f.padding i (" ".intercalate (words.map Token.text ++ [(f.nameToken i).text])).length := by
  have hmap : (if withPrefixes then i.prefixes.toList else []).map
      (fun p => Token.mk .prefixWord (f.cased f.options.uppercasePrefixes p.word)) = words := by
    rw [← hwords]
    cases withPrefixes <;> rfl
  have hspaces (length : Nat) : max 1 (f.options.firstOperandColumn - length) =
      max (length + 1) f.options.firstOperandColumn - length := by
    omega
  rw [← textOf_flatMap_space, padding, ← hspaces]
  simp only [mnemonicTokens, if_true, hmap]
  split
  · exact (List.append_nil _).symm
  · rfl

theorem tokens_mnemonic : (f.mnemonic i).tokens =
    (f.prefixTokens i).flatMap (fun w => [w, space]) ++ [f.nameToken i] ++
      f.padding i (f.heading i).length :=
  f.mnemonicTokens_eq i rfl

theorem tokens_mnemonic_withoutPrefixes : (f.mnemonic i .withoutPrefixes).tokens =
    [f.nameToken i] ++ f.padding i (f.nameToken i).text.length := by
  have htokens := @mnemonicTokens_eq f i false [] rfl
  rwa [List.map_nil, List.nil_append, String.intercalate_singleton] at htokens

/-- Spaces stand between prefixes only. -/
theorem cls_ne_space_of_outer {t : Token}
    (h : (f.mnemonic i .withoutMnemonic).tokens.head? = some t ∨
      (f.mnemonic i .withoutMnemonic).tokens.getLast? = some t) : t.cls ≠ .space := by
  have htokens : (f.mnemonic i .withoutMnemonic).tokens = (f.prefixTokens i).intersperse space := rfl
  rw [htokens, head?_intersperse_space, getLast?_intersperse_space] at h
  have hmem : t ∈ f.prefixTokens i := h.elim List.mem_of_head? List.mem_of_getLast?
  obtain ⟨p, -, rfl⟩ := List.mem_map.mp hmem
  exact TokenClass.noConfusion

theorem mnemonic_congr_prefixes {mask : PrefixMask} (h : mask.bits % 16 = i.prefixes.bits % 16)
    (parts : MnemonicParts) : f.mnemonic { i with prefixes := mask } parts = f.mnemonic i parts := by
  have hcount : f.operandCount { i with prefixes := mask } = f.operandCount i := rfl
  rw [mnemonic, mnemonic, mnemonicTokens, mnemonicTokens, hcount, PrefixMask.toList_eq_of_emod h]

end Phase

/-- The mnemonic phase never fails. Its text is the heading, and before operands it is as long as their
column asks for and ends with one token of spaces. Without that token it consists of what is written
without the mnemonic, a space if there is a prefix, and what is written without the prefixes and its own
last token. Prefixes alone neither start nor end with a space, without both parts nothing is written, and
bits of the mask that stand for no prefix do not matter. -/
theorem mnemonic_phase_decomposes (f : Formatter) (i : Instruction) :
    (∀ parts, (f.mnemonic i parts).failure = none) ∧
    ((f.mnemonic i).text.length = if f.operandCount i = 0 then (f.heading i).length
      else max ((f.heading i).length + 1) f.options.firstOperandColumn) ∧
    ((f.mnemonic i).tokens = f.unpadded i (f.mnemonic i).tokens ++ f.padding i (f.heading i).length ∧
      Token.textOf (f.unpadded i (f.mnemonic i).tokens) = f.heading i) ∧
    (f.unpadded i (f.mnemonic i).tokens = (f.mnemonic i .withoutMnemonic).tokens ++
        (if i.prefixes.toList = [] then [] else [space]) ++
        f.unpadded i (f.mnemonic i .withoutPrefixes).tokens ∧
      (f.mnemonic i .withoutPrefixes).tokens = f.unpadded i (f.mnemonic i .withoutPrefixes).tokens ++
        f.padding i (f.nameToken i).text.length) ∧
    (∀ t, (f.mnemonic i .withoutMnemonic).tokens.head? = some t ∨
      (f.mnemonic i .withoutMnemonic).tokens.getLast? = some t → t.cls ≠ .space) ∧
    (f.mnemonic i ⟨false, false⟩).tokens = [] ∧
    ∀ mask : PrefixMask, mask.bits % 16 = i.prefixes.bits % 16 →
      ∀ parts, f.mnemonic { i with prefixes := mask } parts = f.mnemonic i parts := by
  have htext : Token.textOf ((f.prefixTokens i).flatMap (fun w => [w, space]) ++ [f.nameToken i]) =
      f.heading i := textOf_flatMap_space _ _
  have hempty : f.prefixTokens i = [] ↔ i.prefixes.toList = [] := List.map_eq_nil_iff
  have hspaces := flatMap_space (f.prefixTokens i)
  simp only [hempty] at hspaces
  refine ⟨fun parts => rfl, ?_, ?_, ?_, fun t => f.cls_ne_space_of_outer i, rfl,
    fun mask hmask => f.mnemonic_congr_prefixes i hmask⟩
  · rw [Emission.text, tokens_mnemonic, Token.textOf_append, htext, String.length_append,
      length_add_padding]
  · rw [tokens_mnemonic, unpadded_append_padding]
    exact ⟨rfl, htext⟩
  · rw [tokens_mnemonic, tokens_mnemonic_withoutPrefixes, unpadded_append_padding,
      unpadded_append_padding, hspaces]
    exact ⟨rfl, rfl⟩

/-- A capital of two letters moves the column at which the spaces start, and the highest bit of the mask
stands for no prefix. -/
theorem mnemonic_phase_decomposes_long_capital :
    let f : Formatter := ⟨.intel, { FormatOptions.intel with uppercaseAll := true, firstOperandColumn := 16 }⟩
    let i : Instruction := { mnemonic := "\u00df", prefixes := ⟨25⟩, operands := [
      { kind := .register, size := 4, register := .register .eax }] }
    f.heading i = "LOCK REPNE SS" ∧ (f.mnemonic i).text.length = 16 ∧
      (f.mnemonic i).tokens = f.unpadded i (f.mnemonic i).tokens ++ [⟨.space, "   "⟩] ∧
      f.unpadded i (f.mnemonic i).tokens = [⟨.prefixWord, "LOCK"⟩, space, ⟨.prefixWord, "REPNE"⟩] ++
        [space] ++ [⟨.mnemonic, "SS"⟩] ∧
      f.mnemonic { i with prefixes := ⟨9⟩ } = f.mnemonic i := by
  intro f i
  have hheading : f.heading i = "LOCK REPNE SS" := by decide +kernel
  obtain ⟨-, hlength, ⟨hwhole, -⟩, ⟨hparts, -⟩, -, -, hmask⟩ := f.mnemonic_phase_decomposes i
  rw [hheading] at hlength hwhole
  exact ⟨hheading, hlength, hwhole, hparts.trans (by decide +kernel), hmask ⟨9⟩ (by decide) {}⟩

end Formatter
end AsmListing
