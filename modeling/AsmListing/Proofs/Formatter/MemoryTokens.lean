import Mathlib
import AsmListing.Proofs.Formatter.Written
import AsmListing.Proofs.Operand.Construction

/-! The tokens of memory operands, when no spaces are put around operators or inside brackets. -/
namespace AsmListing

namespace Formatter
open Emission

/-- The formatter writes memory operands without spaces. -/
structure Tight (f : Formatter) : Prop where
  add : f.options.spaceAroundAdd = false
  mul : f.options.spaceAroundMul = false
  brackets : f.options.spaceInsideBrackets = false

def keywordTokens (f : Formatter) (word : String) : List Token :=
  [⟨.keyword, f.cased f.options.uppercaseKeywords word⟩, ⟨.space, " "⟩]

/-- The words for a size, if it has a name and is shown. -/
def sizeTokens (f : Formatter) (size : Int) : List Token :=
  match sizeKeyword? size with
  | some word =>
    if f.options.showMemorySize then
      f.keywordTokens word ++ if f.dialect.memoryStyle = .intel then f.keywordTokens "ptr" else []
    else []
  | none => []

def registerToken (f : Formatter) (r : Register) : Token := ⟨.register, f.registerText r⟩

def scaleToken (scale : Int) : Token := ⟨.number, toString scale⟩

/-- Base, index and scale as summands. -/
def sumTokens (f : Formatter) (base index : Register) (scale : Int) : List Token :=
  (if base = .none then [] else [f.registerToken base]) ++
  if index = .none then [] else
    (if base = .none then [] else [⟨.operator, "+"⟩]) ++ f.registerToken index ::
      if scale = 1 then [] else [⟨.operator, "*"⟩, scaleToken scale]

def displacementToken (f : Formatter) (op : Operand) : Token :=
  ⟨.number, (NumberOptions.drawn .displacement f.options).render 64 (f.shownDisplacement op)⟩

def displacementTokens (f : Formatter) (op : Operand) : List Token :=
  if !hasRegisters op then [f.displacementToken op]
  else if signedDisplacement op = 0 then []
  else [⟨.operator, if f.showsMinus op then "-" else "+"⟩, f.displacementToken op]

def segmentTokens (f : Formatter) (segment : Register) : List Token :=
  if segment = .none then [] else [f.registerToken segment, ⟨.punctuation, ":"⟩]

/-- The displacement before parentheses. -/
def frontTokens (f : Formatter) (op : Operand) : List Token :=
  if !hasRegisters op || signedDisplacement op ≠ 0 then
    (if f.showsMinus op then [⟨.operator, "-"⟩] else []) ++ [f.displacementToken op]
  else []

/-- Base, index and scale in parentheses. -/
def listTokens (f : Formatter) (base index : Register) (scale : Int) : List Token :=
  (if base = .none then [] else [f.registerToken base]) ++
  if index = .none then [] else ⟨.punctuation, ","⟩ :: f.registerToken index ::
    if scale = 1 then [] else [⟨.punctuation, ","⟩, scaleToken scale]

theorem hasRegisters_eq {op : Operand} {base index : Register} (hbase : op.base = base)
    (hindex : op.index = index) : hasRegisters op = decide (base ≠ .none ∨ index ≠ .none) := by
  simp [hasRegisters, hbase, hindex, RegisterValue.isAbsent_register, Bool.decide_or]

theorem keyword_eq_ofTokens (f : Formatter) (word : String) :
    f.keyword word = ofTokens (f.keywordTokens word) :=
  rfl

theorem sizeKeywords_eq_ofTokens (f : Formatter) (op : Operand) :
    f.sizeKeywords op = ofTokens (f.sizeTokens op.size) := by
  rw [sizeKeywords, sizeTokens]
  cases sizeKeyword? op.size with
  | some word => simp [keyword_eq_ofTokens, when_ofTokens, ofTokens_append]
  | none => rfl

private theorem operator_eq_ofTokens (text : String) :
    operator false text = ofTokens [⟨.operator, text⟩] :=
  rfl

theorem register_eq_ofTokens (f : Formatter) {r : Register} (h : r ≠ .none) :
    f.register r = ofTokens [f.registerToken r] :=
  f.register_eq_write h

private theorem displacement_eq_ofTokens {f : Formatter} (hf : f.Valid) (op : Operand) :
    f.displacement op = ofTokens [f.displacementToken op] :=
  displacement_eq_write hf op

/-- A register is written where it is present. -/
private theorem when_register_eq_ofTokens (f : Formatter) (r : Register) :
    when (!RegisterValue.isAbsent r) (f.register r) =
      ofTokens (if r = .none then [] else [f.registerToken r]) := by
  by_cases h : r = .none
  · rw [h]
    rfl
  · simp [h, RegisterValue.isAbsent_register, when_ofTokens, f.register_eq_ofTokens h]

theorem segment_eq_ofTokens (f : Formatter) {op : Operand} {r : Register} (h : op.segment = r) :
    f.segment op = ofTokens (f.segmentTokens r) := by
  rw [segment, h, RegisterValue.isAbsent_register, segmentTokens]
  by_cases hr : r = .none
  · simp only [hr, decide_true, Bool.not_true, when_false, if_true]
    rfl
  · simp [hr, f.register_eq_ofTokens hr, write_eq_ofTokens, ofTokens_append, when_ofTokens]

theorem registerSum_eq_ofTokens {f : Formatter} (ht : f.Tight) {op : Operand} {base index : Register}
    (hbase : op.base = base) (hindex : op.index = index) :
    f.registerSum op = ofTokens (f.sumTokens base index op.scale) := by
  rw [registerSum, hbase, hindex, ht.add, ht.mul, when_register_eq_ofTokens, sumTokens]
  by_cases hi : index = .none
  · simp [hi, RegisterValue.isAbsent_register]
  · simp [hi, f.register_eq_ofTokens hi, RegisterValue.isAbsent_register, operator_eq_ofTokens,
      write_eq_ofTokens, when_ofTokens, ofTokens_append, scaleToken]

theorem displacementTerm_eq_ofTokens {f : Formatter} (hf : f.Valid) (ht : f.Tight) (op : Operand) :
    f.displacementTerm op = ofTokens (f.displacementTokens op) := by
  rw [displacementTerm, displacementTokens, displacement_eq_ofTokens hf, ht.add]
  split
  · rfl
  · simp [operator_eq_ofTokens, when_ofTokens, ofTokens_append]

theorem bracketed_eq_ofTokens {f : Formatter} (hf : f.Valid) (ht : f.Tight) {op : Operand}
    {base index segment : Register} (hbase : op.base = base) (hindex : op.index = index)
    (hsegment : op.segment = segment) :
    f.bracketed op = ofTokens (f.sizeTokens op.size ++
      (if f.dialect.memoryStyle = .nasm then [] else f.segmentTokens segment) ++
      ⟨.beginMemory, "["⟩ ::
        ((if f.dialect.memoryStyle = .nasm then f.segmentTokens segment else []) ++
          (f.sumTokens base index op.scale ++ f.displacementTokens op) ++ [⟨.endMemory, "]"⟩])) := by
  rw [bracketed, sizeKeywords_eq_ofTokens, segment_eq_ofTokens f hsegment,
    registerSum_eq_ofTokens ht hbase hindex, displacementTerm_eq_ofTokens hf ht, ht.brackets]
  simp [when_ofTokens, write_eq_ofTokens, ofTokens_append]

theorem parenthesized_eq_ofTokens {f : Formatter} (hf : f.Valid) {op : Operand}
    {base index segment : Register} (hbase : op.base = base) (hindex : op.index = index)
    (hsegment : op.segment = segment) :
    f.parenthesized op = ofTokens (f.segmentTokens segment ++ (f.frontTokens op ++
      if hasRegisters op then
        ⟨.beginMemory, "("⟩ :: (f.listTokens base index op.scale ++ [⟨.endMemory, ")"⟩]) else [])) := by
  rw [parenthesized, segment_eq_ofTokens f hsegment, hbase, hindex, when_register_eq_ofTokens,
    displacement_eq_ofTokens hf, frontTokens, listTokens]
  by_cases hi : index = .none
  · simp [hi, RegisterValue.isAbsent_register, when_ofTokens, write_eq_ofTokens, ofTokens_append]
  · simp [hi, f.register_eq_ofTokens hi, RegisterValue.isAbsent_register, write_eq_ofTokens,
      when_ofTokens, ofTokens_append, scaleToken]

end Formatter
end AsmListing
