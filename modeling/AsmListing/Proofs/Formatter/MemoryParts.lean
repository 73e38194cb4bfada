import Mathlib
import AsmListing.Formatter.Memory
import AsmListing.Proofs.Emission

/-! The parts of memory operands. A property that is kept when one emission follows another holds of a
memory operand if it holds of the registers, the displacement and the marks that are written for it. -/
namespace AsmListing.Formatter
open Emission

/-- Size and segment, as they are written before a bracket. -/
def beforeBracket (f : Formatter) (op : Operand) : Emission :=
  f.sizeKeywords op ++ .when (f.dialect.memoryStyle ≠ .nasm) (f.segment op)

/-- The sum between brackets. -/
def betweenBrackets (f : Formatter) (op : Operand) : Emission :=
  let gap := Emission.when f.options.spaceInsideBrackets (.write .space " ")
  gap ++ .when (f.dialect.memoryStyle = .nasm) (f.segment op) ++ f.registerSum op ++
    f.displacementTerm op ++ gap

/-- Segment and displacement, as they are written before a parenthesis. -/
def beforeParenthesis (f : Formatter) (op : Operand) : Emission :=
  f.segment op ++ .when (!hasRegisters op || signedDisplacement op ≠ 0)
    (.when (f.showsMinus op) (.write .operator "-") ++ f.displacement op)

/-- The list between parentheses. -/
def betweenParentheses (f : Formatter) (op : Operand) : Emission :=
  .when (!op.base.isAbsent) (f.register op.base) ++ .when (!op.index.isAbsent)
    (.write .punctuation "," ++ f.register op.index ++
      .when (op.scale ≠ 1) (.write .punctuation "," ++ .write .number (toString op.scale)))

theorem bracketed_eq_enclosed (f : Formatter) (op : Operand) :
    f.bracketed op = f.beforeBracket op ++ .write .beginMemory "[" ++ f.betweenBrackets op ++
      .write .endMemory "]" := by
  simp only [bracketed, beforeBracket, betweenBrackets, append_assoc, decide_not]

theorem parenthesized_eq_enclosed (f : Formatter) (op : Operand) :
    f.parenthesized op = if hasRegisters op then
      f.beforeParenthesis op ++ .write .beginMemory "(" ++ f.betweenParentheses op ++
        .write .endMemory ")"
    else f.beforeParenthesis op := by
  cases h : hasRegisters op with
  | false => simp [parenthesized, beforeParenthesis, h]
  | true =>
    simp only [parenthesized, beforeParenthesis, betweenParentheses, h, append_assoc, if_true]
    rfl

/-- The property holds of whatever stands in a memory operand apart from brackets, and of what is put
together from it. -/
structure Parts (f : Formatter) (op : Operand) (Q : Emission → Prop) : Prop extends Closed Q where
  write {cls : TokenClass} (hcls : cls ∈ [.keyword, .space, .operator, .punctuation, .number])
    (text : String) : Q (.write cls text)
  register {value : RegisterValue} (h : value ∈ [op.base, op.index, op.segment])
    (hpresent : !value.isAbsent) : Q (f.register value)
  displacement : Q (f.displacement op)

namespace Parts
variable {f : Formatter} {op : Operand} {Q : Emission → Prop}

theorem keyword (h : f.Parts op Q) (word : String) : Q (f.keyword word) :=
  h.append (h.write (by simp) _) (h.write (by simp) _)

private theorem operator (h : f.Parts op Q) (spaced : Bool) (text : String) :
    Q (operator spaced text) := by
  have hspace : Q (.when spaced (.write .space " ")) := h.when fun _ => h.write (by simp) _
  exact h.append (h.append hspace (h.write (by simp) _)) hspace

private theorem segment (h : f.Parts op Q) : Q (f.segment op) :=
  h.when fun hpresent => h.append (h.register (by simp) hpresent) (h.write (by simp) _)

private theorem sizeKeywords (h : f.Parts op Q) : Q (f.sizeKeywords op) := by
  rw [Formatter.sizeKeywords]
  split
  · exact h.when fun _ => h.append (h.keyword _) (h.when fun _ => h.keyword _)
  · exact h.empty

private theorem registerSum (h : f.Parts op Q) : Q (f.registerSum op) := by
  have hfactor : Q (.when (op.scale ≠ 1)
      (Formatter.operator f.options.spaceAroundMul "*" ++ .write .number (toString op.scale))) :=
    h.when fun _ => h.append (h.operator _ _) (h.write (by simp) _)
  refine h.append (h.when fun hbase => h.register (by simp) hbase) (h.when fun hindex => ?_)
  have hplus : Q (.when (!op.base.isAbsent) (Formatter.operator f.options.spaceAroundAdd "+")) :=
    h.when fun _ => h.operator _ _
  exact h.append (h.append hplus (h.register (by simp) hindex)) hfactor

private theorem displacementTerm (h : f.Parts op Q) : Q (f.displacementTerm op) := by
  rw [Formatter.displacementTerm]
  split
  · exact h.displacement
  · exact h.when fun _ => h.append (h.operator _ _) h.displacement

theorem beforeBracket (h : f.Parts op Q) : Q (f.beforeBracket op) :=
  h.append h.sizeKeywords (h.when fun _ => h.segment)

theorem betweenBrackets (h : f.Parts op Q) : Q (f.betweenBrackets op) := by
  have hgap : Q (.when f.options.spaceInsideBrackets (.write .space " ")) :=
    h.when fun _ => h.write (by simp) _
  refine h.append (h.append (h.append (h.append hgap ?_) h.registerSum) h.displacementTerm) hgap
  exact h.when fun _ => h.segment

theorem beforeParenthesis (h : f.Parts op Q) : Q (f.beforeParenthesis op) := by
  refine h.append h.segment (h.when fun _ => h.append (h.when fun _ => ?_) h.displacement)
  exact h.write (by simp) _

theorem betweenParentheses (h : f.Parts op Q) : Q (f.betweenParentheses op) := by
  have hcomma : Q (.write .punctuation ",") := h.write (by simp) _
  refine h.append (h.when fun hbase => h.register (by simp) hbase) (h.when fun hindex => ?_)
  exact h.append (h.append hcomma (h.register (by simp) hindex))
    (h.when fun _ => h.append hcomma (h.write (by simp) _))

/-- If the property holds of brackets too, it holds of the memory operand. -/
theorem memory (h : f.Parts op Q) (hbegin : ∀ text, Q (.write .beginMemory text))
    (hend : ∀ text, Q (.write .endMemory text)) : Q (f.memory op) := by
  have henclosed {outer inner : Emission} (houter : Q outer) (hinner : Q inner) (s t : String) :
      Q (outer ++ .write .beginMemory s ++ inner ++ .write .endMemory t) :=
    h.append (h.append (h.append houter (hbegin s)) hinner) (hend t)
  rw [Formatter.memory]
  split
  · rw [parenthesized_eq_enclosed]
    split
    · exact henclosed h.beforeParenthesis h.betweenParentheses _ _
    · exact h.beforeParenthesis
  · rw [bracketed_eq_enclosed]
    exact henclosed h.beforeBracket h.betweenBrackets _ _

end Parts
end AsmListing.Formatter
