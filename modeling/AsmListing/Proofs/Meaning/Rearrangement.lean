import Mathlib
import AsmListing.Proofs.Meaning.Correspondence

/-! Memory operands are the sums that are written. Their numbers can be moved between the registers, and
the text stands for the same instruction. -/
namespace AsmListing
open Outcome

namespace Phrase
variable {ts us : List (Sign × Term)}

/-- The terms with their signs are the same, and the registers stand in the same order. -/
structure NumbersMoved (ts us : List (Sign × Term)) : Prop where
  perm : ts.Perm us
  registers : ts.filter (·.2.name?.isSome) = us.filter (·.2.name?.isSome)

theorem registers_readings (ts : List (Sign × Term)) :
    Summands.registers (readings ts) = readings (ts.filter (·.2.name?.isSome)) := by
  rw [Summands.registers, readings, readings, List.filter_map]
  congr 2
  funext ⟨sign, t⟩
  cases t <;> rfl

/-- Terms add up to the same place after their numbers were moved. -/
theorem NumbersMoved.foldlM_add (h : NumbersMoved ts us) (place : MemoryPlace) :
    (readings ts).foldlM MemoryPlace.add place = (readings us).foldlM MemoryPlace.add place := by
  have hoffsets : ((readings ts).map Summands.offset).sum = ((readings us).map Summands.offset).sum :=
    ((h.perm.map _).map _).sum_eq
  rw [Summands.foldlM_eq_displaced, Summands.foldlM_eq_displaced place (readings us),
    registers_readings, registers_readings, h.registers, hoffsets]

theorem NumbersMoved.reads {size segment : Option String} {first first' : Term}
    {more more' : List (Sign × Term)} {d : Draft}
    (h : NumbersMoved (summands first more) (summands first' more'))
    (hreads : (Phrase.memory size segment first more).Reads d) :
    (Phrase.memory size segment first' more').Reads d := by
  cases hreads with
  | memory hnames hnumbers hplace =>
    rw [names, List.forall_mem_append] at hnames
    rw [h.foldlM_add] at hplace
    refine .memory ?_ (fun text htext => hnumbers text ?_) hplace
    · rw [names, List.forall_mem_append]
      refine ⟨hnames.1, fun name hname => hnames.2 name ?_⟩
      exact (h.perm.filterMap _).mem_iff.mpr hname
    · exact (h.perm.filterMap _).mem_iff.mpr htext

end Phrase

/-- The operand is the same, or numbers were moved in it. -/
inductive OperandPhrase.NumbersMoved : OperandPhrase → OperandPhrase → Prop where
  | same (p : OperandPhrase) : NumbersMoved p p
  | memory {size segment : Option String} {first first' : Term} {more more' : List (Sign × Term)}
      {implicit : Bool}
      (h : Phrase.NumbersMoved (Phrase.summands first more) (Phrase.summands first' more')) :
      NumbersMoved ⟨.memory size segment first more, implicit⟩
        ⟨.memory size segment first' more', implicit⟩

theorem OperandPhrase.NumbersMoved.reads {p q : OperandPhrase} {d : Draft × Bool} (h : p.NumbersMoved q)
    (hreads : p.phrase.Reads d.1 ∧ p.implicit = d.2) : q.phrase.Reads d.1 ∧ q.implicit = d.2 := by
  cases h with
  | same => exact hreads
  | memory h => exact ⟨h.reads hreads.1, hreads.2⟩

namespace Sentence
variable {s s' : Sentence} {i : Instruction}

/-- The sentences differ in the places of numbers in memory operands only. -/
structure NumbersMoved (s s' : Sentence) : Prop where
  prefixes : s.prefixes = s'.prefixes
  mnemonic : s.mnemonic = s'.mnemonic
  operands : List.Forall₂ OperandPhrase.NumbersMoved s.operands s'.operands

private theorem forall₂_reads {ps qs : List OperandPhrase} {ds : List (Draft × Bool)}
    (h : List.Forall₂ OperandPhrase.NumbersMoved ps qs)
    (hreads : List.Forall₂ (fun p d => p.phrase.Reads d.1 ∧ p.implicit = d.2) ps ds) :
    List.Forall₂ (fun p d => p.phrase.Reads d.1 ∧ p.implicit = d.2) qs ds := by
  induction h generalizing ds with
  | nil => exact hreads
  | cons hp _ ih =>
    cases hreads with
    | cons hd hds => exact .cons (hp.reads hd) (ih hds)

/-- A sentence stands for the same instruction after numbers were moved. -/
theorem NumbersMoved.instruction (h : s.NumbersMoved s') (hfits : ∀ p ∈ s.operands, p.phrase.Fits)
    (hfits' : ∀ p ∈ s'.operands, p.phrase.Fits) (hi : s.instruction = .ok i) :
    s'.instruction = .ok i := by
  rw [instruction_iff_reads hfits, h.prefixes, h.mnemonic] at hi
  obtain ⟨ds, size, os, hreads, hrest⟩ := hi
  exact (instruction_iff_reads hfits').mpr ⟨ds, size, os, forall₂_reads h.operands hreads, hrest⟩

/-- A memory operand that was read is the sum of its terms, if they do not name the absent register. The
text of a sentence in which numbers were moved is read as the same instruction. -/
theorem read_sums_terms {text : String} {ls : List Lexeme} (hsplit : Lexeme.IsSplit text ls)
    (hderives : s.Derives ls) (hread : Instruction.read text = .ok i) :
    List.Forall₂ (fun p op => ∀ size segment first more,
        p.phrase = Phrase.memory size segment first more →
        (∀ name ∈ Phrase.termNames (Phrase.summands first more), Text.upper name ≠ "NONE") →
        op.kind = .memory ∧ op.Sums (Phrase.readings (Phrase.summands first more)))
      s.plainOperands i.operands ∧
    ∀ text' ls' s', Lexeme.IsSplit text' ls' → s'.Derives ls' → s.NumbersMoved s' →
      Instruction.read text' = .ok i := by
  have hfits := hderives.fits hsplit
  have hinstruction := (read_eq_ok_of_derives hsplit hderives).mp hread
  refine ⟨?_, fun text' ls' s' hsplit' hderives' hmoved => ?_⟩
  · refine (forall₂_means_of_instruction hfits hinstruction).imp fun p op hp => ?_
    intro size segment first more hphrase hpresent
    cases hp with
    | memory hkind _ _ hsum =>
      cases hphrase
      exact ⟨hkind, hsum hpresent⟩
    | register | shortBranch => cases hphrase
    | immediate hv | branch hv =>
      subst hphrase
      cases hv
  · have hfits' := hderives'.fits hsplit'
    exact (read_eq_ok_of_derives hsplit' hderives').mpr (hmoved.instruction hfits hfits' hinstruction)

/-- The scaled register comes first and is not the base, and one sign does not reach the next term. -/
theorem read_sums_terms_scaled_first :
    ∃ i op, Instruction.read "inc [8+rcx*4-0Fh+rbx]" = .ok i ∧ i.operands = [op] ∧
      op.base = .register .rbx ∧ op.index = .register .rcx ∧ op.scale = 4 ∧ op.displacement = -7 ∧
      (∀ regs, op.address regs = 8 + regs .rcx * 4 - 15 + regs .rbx) ∧
      Instruction.read "inc [rcx*4+rbx-0Fh+8]" = .ok i := by
  let s : Sentence := ⟨[], "inc", [⟨.memory none none (.number "8")
    [(.plus, .scaled "rcx" "4"), (.minus, .number "0Fh"), (.plus, .register "rbx")], false⟩]⟩
  let s' : Sentence := ⟨[], "inc", [⟨.memory none none (.scaled "rcx" "4")
    [(.plus, .register "rbx"), (.minus, .number "0Fh"), (.plus, .number "8")], false⟩]⟩
  let op : Operand :=
    { kind := .memory, base := .register .rbx, index := .register .rcx, scale := 4, displacement := -7 }
  have hs : parse? "inc [8+rcx*4-0Fh+rbx]" = some s := by decide
  have hs' : parse? "inc [rcx*4+rbx-0Fh+8]" = some s' := by decide
  have hread : Instruction.read "inc [8+rcx*4-0Fh+rbx]" = .ok { mnemonic := "inc", operands := [op] } :=
    rfl
  have hmoved : s.NumbersMoved s' :=
    ⟨rfl, rfl, .cons (.memory ⟨by decide, by decide⟩) .nil⟩
  obtain ⟨ls, hsplit, hderives⟩ := parse?_eq_some.mp hs
  obtain ⟨ls', hsplit', hderives'⟩ := parse?_eq_some.mp hs'
  obtain ⟨hsums, hsame⟩ := read_sums_terms hsplit hderives hread
  obtain ⟨hterms, -⟩ := List.forall₂_cons.mp hsums
  obtain ⟨-, hsum⟩ := hterms _ _ _ _ rfl (by decide)
  refine ⟨_, op, hread, rfl, hsum.base, hsum.index, hsum.scale, hsum.displacement, fun regs => ?_,
    hsame _ ls' s' hsplit' hderives' hmoved⟩
  have hvalue : op.address regs = 8 + (regs .rcx * 4 + (-15 + (regs .rbx + 0))) := hsum.address regs
  omega

end Sentence
end AsmListing
