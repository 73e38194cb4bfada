import Mathlib
import AsmListing.Proofs.Meaning.Meaningful
import AsmListing.Proofs.Meaning.Sums

/-! The operands of an instruction that was read are the written ones without the decorators, in order.
Its immediates all have one size, which the written operands settle. -/
namespace AsmListing
open Outcome
open Numeral (spelled)

/-- The number that is written as an operand. -/
def Phrase.number? : Phrase → Option Int
  | .number sign text => some ((sign.getD .plus).apply (spelled text.toList))
  | _ => none

namespace Operand

/-- An immediate that was written as the number. -/
def storing (size v : Int) : Operand :=
  { kind := .immediate, size, immediate := v % 2 ^ (8 * size).toNat, signed := decide (v < 0) }

/-- A branch to the address. -/
def branching (target : Int) (short : Bool) : Operand := { kind := .nearBranch, size := 8, target, short }

def isImmediate (op : Operand) : Bool := op.kind = .immediate

/-- The operand is a branch that is not marked as short. -/
def isPlainBranch (op : Operand) : Bool := op.kind = .nearBranch && !op.short

end Operand

namespace OperandPhrase

/-- What a written operand is after the mnemonic and with immediates of the size. A memory operand is the
sum of its terms, if they do not name the absent register. -/
inductive Means (mnemonic : String) (size : Int) : OperandPhrase → Operand → Prop where
  | register {name : String} {n : Nat} {implicit : Bool} (hname : IsRegister name)
      (hn : (registerOf name).width? = some n) :
      Means mnemonic size ⟨.register name, implicit⟩
        { kind := .register, size := n, register := registerOf name, implicit }
  | immediate {p : Phrase} {v : Int} (hv : p.number? = some v) (hplain : isBranch mnemonic = false) :
      Means mnemonic size ⟨p, false⟩ (.storing size v)
  | branch {p : Phrase} {v : Int} (hv : p.number? = some v) (hbranch : isBranch mnemonic = true) :
      Means mnemonic size ⟨p, false⟩ (.branching v false)
  | shortBranch (text : String) :
      Means mnemonic size ⟨.shortBranch text, false⟩ (.branching (spelled text.toList) true)
  | memory {width segment : Option String} {first : Term} {more : List (Sign × Term)} {op : Operand}
      (hkind : op.kind = .memory) (hsize : op.size = width.elim 0 memorySize)
      (hsegment : op.segment = .register (segment.elim .none registerOf))
      (hsum : (∀ name ∈ Phrase.termNames (Phrase.summands first more), Text.upper name ≠ "NONE") →
        op.Sums (Phrase.readings (Phrase.summands first more))) :
      Means mnemonic size ⟨.memory width segment first more, op.implicit⟩ op

end OperandPhrase

section Operands
variable {mnemonic : String} {size : Int} {implicit : Bool}
variable {p : Phrase} {d : Draft} {o : Option Operand}

/-- A memory operand is what its phrase means. -/
private theorem Phrase.means_memory {width segment : Option String} {first : Term}
    {more : List (Sign × Term)} {place : MemoryPlace} {op : Operand}
    (hreads : (Phrase.memory width segment first more).Reads (.memory place))
    (hop : Operand.ofMemory place .read implicit = .ok op) :
    OperandPhrase.Means mnemonic size ⟨.memory width segment first more, implicit⟩ op := by
  cases hreads with
  | memory hnames _ hplace =>
    rw [Phrase.names, List.forall_mem_append] at hnames
    obtain ⟨hwidth, hsegment⟩ := Summands.foldlM_frame hplace
    have hsums (hpresent : ∀ name ∈ termNames (summands first more), Text.upper name ≠ "NONE") :
        op.Sums (readings (summands first more)) := by
      obtain ⟨haddable, rfl⟩ := (foldlM_readings_eq_ok hnames.2 hpresent).mp hplace
      exact Summands.sums_of_ofMemory haddable (present_readings hnames.2 hpresent) hop
    obtain ⟨base, index, r, -, -, hr, -, rfl⟩ := Operand.ofMemory_eq_ok.mp hop
    rw [hsegment] at hr
    cases hr
    exact .memory rfl hwidth rfl hsums

/-- A decorator becomes no operand, and any other phrase one that it means. -/
theorem Phrase.Reads.means (hreads : p.Reads d) (hbecomes : Draft.Becomes mnemonic size implicit d o) :
    p.isDecorator = true ∧ o = none ∨
      p.isDecorator = false ∧ ∃ op, o = some op ∧ OperandPhrase.Means mnemonic size ⟨p, implicit⟩ op := by
  cases hbecomes with
  | rounding r =>
    cases hreads with
    | decorator => exact .inl ⟨rfl, rfl⟩
  | register hop =>
    cases hreads with
    | register hname =>
      obtain ⟨r, n, hr, hn, rfl⟩ := Operand.ofRegister_eq_ok.mp hop
      cases hr
      exact .inr ⟨rfl, _, rfl, .register hname hn⟩
  | memory hop =>
    cases p with
    | memory => exact .inr ⟨rfl, _, rfl, means_memory hreads hop⟩
    | register | number | shortBranch | decorator => cases hreads
  | shortBranch hexplicit hop =>
    cases hreads with
    | @shortBranch text =>
      obtain ⟨-, -, rfl⟩ := Operand.ofTarget_eq_ok.mp hop
      subst hexplicit
      exact .inr ⟨rfl, _, rfl, .shortBranch text⟩
  | branch hexplicit hbranch hop =>
    cases hreads with
    | number =>
      obtain ⟨-, -, rfl⟩ := Operand.ofTarget_eq_ok.mp hop
      subst hexplicit
      exact .inr ⟨rfl, _, rfl, .branch rfl hbranch⟩
  | immediate hexplicit hplain hop =>
    cases hreads with
    | number =>
      obtain ⟨-, -, rfl⟩ := Operand.ofImmediate_eq_ok.mp hop
      subst hexplicit
      exact .inr ⟨rfl, _, rfl, .immediate rfl hplain⟩

end Operands

namespace OperandPhrase
variable {mnemonic : String} {size : Int} {p : OperandPhrase} {op : Operand}

/-- An operand settles the size of immediates as its phrase does. -/
theorem Means.size? (h : p.Means mnemonic size op) (hfits : p.phrase.Fits) :
    p.phrase.size? = if op.givesSize then some op.size else none := by
  cases h with
  | register _ hn => simp [Phrase.size?, hn, Operand.givesSize]
  | @immediate p v hv | @branch p v hv =>
    cases p with
    | number => rfl
    | register | shortBranch | decorator | memory => cases hv
  | shortBranch => rfl
  | @memory width segment first more op hkind hsize =>
    rw [Phrase.size?, Operand.givesSize, hkind, hsize]
    cases width with
    | none => rfl
    | some z => simp [hfits.memorySize_ne_zero]

/-- Unless the mnemonic is that of a branch, the immediates are the numbers. -/
theorem Means.storing (h : p.Means mnemonic size op) (hplain : isBranch mnemonic = false) :
    p.phrase.number?.map (Operand.storing size) = if op.isImmediate then some op else none := by
  cases h with
  | register | shortBranch => rfl
  | immediate hv =>
    rw [hv]
    rfl
  | branch _ hbranch => exact absurd (hplain.symm.trans hbranch) Bool.false_ne_true
  | memory hkind =>
    rw [Operand.isImmediate, hkind]
    rfl

/-- If the mnemonic is that of a branch, the branches without a mark are the numbers. -/
theorem Means.branching (h : p.Means mnemonic size op) (hbranch : isBranch mnemonic = true) :
    p.phrase.number?.map (Operand.branching · false) = if op.isPlainBranch then some op else none := by
  cases h with
  | register | shortBranch => rfl
  | immediate _ hplain => exact absurd (hplain.symm.trans hbranch) Bool.false_ne_true
  | branch hv =>
    rw [hv]
    rfl
  | memory hkind =>
    rw [Operand.isPlainBranch, hkind]
    rfl

/-- Only numbers after other mnemonics are immediates, and they have the given size. -/
theorem Means.of_immediate (h : p.Means mnemonic size op) (hkind : op.kind = .immediate) :
    isBranch mnemonic = false ∧ op.size = size := by
  cases h with
  | immediate _ hplain => exact ⟨hplain, rfl⟩
  | register | branch | shortBranch => cases hkind
  | memory hmemory => cases hmemory.symm.trans hkind

end OperandPhrase

namespace Sentence
variable {mnemonic : String} {size : Int} {s : Sentence} {i : Instruction}
variable {ps : List OperandPhrase} {ds : List (Draft × Bool)} {os : List (Option Operand)}

/-- The written operands that are no decorators. -/
def plainOperands (s : Sentence) : List OperandPhrase := s.operands.filter (!·.phrase.isDecorator)

/-- Leaving the decorators out does not change what is picked from the other operands. -/
private theorem filterMap_plainOperands {α : Type} {f : Phrase → Option α}
    (hf : ∀ text, f (.decorator text) = none) :
    s.plainOperands.filterMap (f ·.phrase) = s.operands.filterMap (f ·.phrase) := by
  rw [plainOperands, List.filterMap_filter]
  congr 1
  funext ⟨p, implicit⟩
  cases p with
  | decorator text => exact (hf text).symm
  | register | number | shortBranch | memory => rfl

private theorem forall₂_means
    (hreads : List.Forall₂ (fun p d => p.phrase.Reads d.1 ∧ p.implicit = d.2) ps ds)
    (hos : List.Forall₂ (fun d o => Draft.Becomes mnemonic size d.2 d.1 o) ds os) :
    List.Forall₂ (OperandPhrase.Means mnemonic size) (ps.filter (!·.phrase.isDecorator))
      (os.filterMap id) := by
  induction hreads generalizing os with
  | nil =>
    cases hos
    exact .nil
  | @cons p d ps ds hd _ ih =>
    obtain ⟨hpd, himplicit⟩ := hd
    cases hos with
    | cons ho hos =>
      rw [← himplicit] at ho
      rcases hpd.means ho with ⟨hdecorator, rfl⟩ | ⟨hdecorator, op, rfl, hop⟩
      · simpa [hdecorator] using ih hos
      · simpa [hdecorator] using ⟨hop, ih hos⟩

/-- What is picked from the operands pointwise is picked from the phrases. -/
private theorem filterMap_of_forall₂ {α : Type} {R : OperandPhrase → Operand → Prop}
    {f : OperandPhrase → Option α} {keep : Operand → Bool} {g : Operand → α} {ops : List Operand}
    (h : List.Forall₂ R ps ops) (hone : ∀ p op, R p op → f p = if keep op then some (g op) else none) :
    ps.filterMap f = (ops.filter keep).map g := by
  induction h with
  | nil => rfl
  | @cons p op ps ops hp _ ih =>
    have hhead := hone p op hp
    cases hkeep : keep op with
    | true =>
      rw [hkeep, if_pos rfl] at hhead
      rw [List.filterMap_cons_some hhead, List.filter_cons_of_pos hkeep, ih, List.map_cons]
    | false =>
      rw [hkeep, if_neg Bool.false_ne_true] at hhead
      rw [List.filterMap_cons_none hhead, List.filter_cons_of_neg (by simp [hkeep]), ih]

private theorem immediateSize_of_means (hfits : ∀ p ∈ s.operands, p.phrase.Fits) {ops : List Operand}
    (h : List.Forall₂ (OperandPhrase.Means mnemonic size) s.plainOperands ops) :
    Operand.immediateSize ops = immediateSize s.operands := by
  have hplain : ∀ p ∈ s.plainOperands, p.phrase.Fits := fun p hp => hfits p (List.mem_filter.mp hp).1
  have hboth := (List.forall₂_and_left _ _).mpr ⟨hplain, h⟩
  have hsizes := filterMap_of_forall₂ hboth fun p op hp => hp.2.size? hp.1
  have hall := @filterMap_plainOperands s Int Phrase.size? fun _ => rfl
  rw [immediateSize, ← List.head?_filterMap, ← hall, hsizes, List.head?_map, List.head?_filter,
    Operand.immediateSize, Option.map_map]
  rfl

/-- An instruction that was read has the operands that its sentence means. -/
theorem forall₂_means_of_instruction (hfits : ∀ p ∈ s.operands, p.phrase.Fits)
    (h : s.instruction = .ok i) :
    List.Forall₂ (OperandPhrase.Means i.mnemonic (immediateSize s.operands)) s.plainOperands
      i.operands := by
  obtain ⟨ds, size, os, hreads, -, hsize, hos, rfl⟩ := (instruction_iff_reads hfits).mp h
  have hmeans : List.Forall₂ (OperandPhrase.Means (Text.lower s.mnemonic) size) s.plainOperands
      (os.filterMap id) := forall₂_means hreads hos
  have hsame := immediateSize_of_means hfits hmeans
  rw [Draft.immediateSize_operands hos hsize] at hsame
  rwa [← hsame]

/-- A text that is cut into a sentence is read as the sentence. -/
theorem read_eq_ok_of_derives {text : String} {ls : List Lexeme} (hsplit : Lexeme.IsSplit text ls)
    (hderives : s.Derives ls) : Instruction.read text = .ok i ↔ s.instruction = .ok i := by
  rw [Instruction.read, parse?_eq_some.mpr ⟨ls, hsplit, hderives⟩]
  exact mapError_eq_ok

/-- The operands of an instruction that was read are the written ones without the decorators, in order.
All immediates have the size that the written operands settle. They are the written numbers, unless the
mnemonic is that of a branch; then the numbers are addresses to branch to. -/
theorem read_settles_immediates {text : String} {ls : List Lexeme} (hsplit : Lexeme.IsSplit text ls)
    (hderives : s.Derives ls) (hread : Instruction.read text = .ok i) :
    let size := immediateSize s.operands
    let numbers := s.operands.filterMap (·.phrase.number?)
    i.mnemonic = Text.lower s.mnemonic ∧
    List.Forall₂ (OperandPhrase.Means i.mnemonic size) s.plainOperands i.operands ∧
    (∀ op ∈ i.operands, op.kind = .immediate → op.size = size) ∧
    (isBranch i.mnemonic = false →
      i.operands.filter Operand.isImmediate = numbers.map (Operand.storing size)) ∧
    (isBranch i.mnemonic = true → (∀ op ∈ i.operands, op.kind ≠ .immediate) ∧
      i.operands.filter Operand.isPlainBranch = numbers.map (Operand.branching · false)) := by
  intro size numbers
  have hinstruction := (read_eq_ok_of_derives hsplit hderives).mp hread
  have hmnemonic : i.mnemonic = Text.lower s.mnemonic := by
    obtain ⟨_, _, _, -, -, -, -, rfl⟩ := instruction_eq_ok.mp hinstruction
    rfl
  have hmeans := forall₂_means_of_instruction (hderives.fits hsplit) hinstruction
  have himmediate : ∀ op ∈ i.operands, op.kind = .immediate →
      isBranch i.mnemonic = false ∧ op.size = size := by
    intro op hop hkind
    obtain ⟨p, -, hp⟩ := exists_of_forall₂ hmeans hop
    exact hp.of_immediate hkind
  have hnumbers (g : Int → Operand) :
      s.plainOperands.filterMap (·.phrase.number?.map g) = numbers.map g := by
    rw [filterMap_plainOperands (f := fun p => p.number?.map g) fun _ => rfl, List.map_filterMap]
  refine ⟨hmnemonic, hmeans, fun op hop hkind => (himmediate op hop hkind).2, fun hplain => ?_,
    fun hbranch => ⟨fun op hop hkind => ?_, ?_⟩⟩
  · have hstored := filterMap_of_forall₂ (g := id) hmeans fun p op hp => hp.storing hplain
    rw [← hnumbers, hstored, List.map_id]
  · exact Bool.false_ne_true ((himmediate op hop hkind).1.symm.trans hbranch)
  · have hbranches := filterMap_of_forall₂ (g := id) hmeans fun p op hp => hp.branching hbranch
    rw [← hnumbers, hbranches, List.map_id]

/-- The implicit byte register settles the size of the immediates before it, which the memory operand
without a size and the register after it do not. After a branch the numbers are addresses. -/
theorem read_settles_immediates_implicit :
    (∃ i, Instruction.read "add -80h, [rbx], \x7brz-sae\x7d, 0FFh, <al>, rax" = .ok i ∧
      i.operands.filter Operand.isImmediate = [.storing 1 (-128), .storing 1 255]) ∧
    ∃ i, Instruction.read "JMP short 5, eax, 10h" = .ok i ∧
      i.operands.filter Operand.isPlainBranch = [.branching 16 false] := by
  let sum : Sentence := ⟨[], "add", [⟨.number (some .minus) "80h", false⟩,
    ⟨.memory none none (.register "rbx") [], false⟩, ⟨.decorator "\x7brz-sae\x7d", false⟩,
    ⟨.number none "0FFh", false⟩, ⟨.register "al", true⟩, ⟨.register "rax", false⟩]⟩
  let jump : Sentence := ⟨[], "JMP",
    [⟨.shortBranch "5", false⟩, ⟨.register "eax", false⟩, ⟨.number none "10h", false⟩]⟩
  let added : Instruction := { mnemonic := "add", rounding := some .towardZero, operands :=
    [{ kind := .immediate, size := 1, immediate := 128, signed := true },
      { kind := .memory, base := .register .rbx }, { kind := .immediate, size := 1, immediate := 255 },
      { kind := .register, size := 1, register := .register .al, implicit := true },
      { kind := .register, size := 8, register := .register .rax }] }
  let jumping : Instruction := { mnemonic := "jmp", operands :=
    [{ kind := .nearBranch, size := 8, target := 5, short := true },
      { kind := .register, size := 4, register := .register .eax },
      { kind := .nearBranch, size := 8, target := 16 }] }
  have hsum : parse? "add -80h, [rbx], \x7brz-sae\x7d, 0FFh, <al>, rax" = some sum := by decide
  have hjump : parse? "JMP short 5, eax, 10h" = some jump := by decide
  have hadded : Instruction.read "add -80h, [rbx], \x7brz-sae\x7d, 0FFh, <al>, rax" = .ok added := rfl
  have hjumping : Instruction.read "JMP short 5, eax, 10h" = .ok jumping := rfl
  obtain ⟨ls, hsplit, hderives⟩ := parse?_eq_some.mp hsum
  obtain ⟨ms, hsplit', hderives'⟩ := parse?_eq_some.mp hjump
  obtain ⟨-, -, -, hstored, -⟩ := read_settles_immediates hsplit hderives hadded
  obtain ⟨-, -, -, -, hbranches⟩ := read_settles_immediates hsplit' hderives' hjumping
  have hsize : immediateSize sum.operands = 1 := by decide
  have hnumbers : sum.operands.filterMap (·.phrase.number?) = [-128, 255] := by decide
  have htargets : jump.operands.filterMap (·.phrase.number?) = [16] := by decide
  rw [hsize, hnumbers] at hstored
  rw [htargets] at hbranches
  exact ⟨⟨added, hadded, hstored (by decide)⟩, jumping, hjumping, (hbranches (by decide)).2⟩

end Sentence
end AsmListing
