import Mathlib
import AsmListing.Proofs.RoundTrip.Text

/-! Reading back what was written. From the text of an instruction the same instruction is read, up to
the normal form of its operands. -/
namespace AsmListing
open Outcome

/-- A mnemonic in small letters and digits, starting with a letter, that is no prefix. -/
structure IsPlainMnemonic (s : String) : Prop where
  head : s.toList.head?.any Char.isLower
  chars : s.toList.all fun c => c.isLower || c.isDigit
  notPrefix : s ∉ Prefix.all.map Prefix.word

namespace IsPlainMnemonic
variable {s : String}

theorem isAlphanum (h : IsPlainMnemonic s) : ∀ c ∈ s.toList, c.isAlphanum := by
  intro c hc
  have hchar := List.all_eq_true.mp h.chars c hc
  simp only [Bool.or_eq_true] at hchar
  rcases hchar with hlower | hdigit
  · simp [Char.isAlphanum, Char.isAlpha, hlower]
  · simp [Char.isAlphanum, hdigit]

/-- Small letters and digits are their own small forms. -/
private theorem small_eq (h : IsPlainMnemonic s) :
    ∀ c ∈ s.toList, c.toLower = c ∧ Terminal.foldLetter c = c := by
  intro c hc
  exact Text.forall_ascii (P := fun c => (c.isLower || c.isDigit) = true →
    c.toLower = c ∧ Terminal.foldLetter c = c) (by decide)
    (Text.toNat_lt_of_isAlphanum (h.isAlphanum c hc)) (List.all_eq_true.mp h.chars c hc)

theorem lower_eq (h : IsPlainMnemonic s) : Text.lower s = s := by
  have hmap : s.toList.map Char.toLower = s.toList := by
    conv_rhs => rw [← List.map_id s.toList]
    exact List.map_congr_left fun c hc => (h.small_eq c hc).1
  rw [← String.toList_inj, Text.toList_lower_ascii (Text.IsAscii.of_isAlphanum h.isAlphanum), hmap]

theorem isMnemonic (h : IsPlainMnemonic s) : IsMnemonic s := by
  have hfold : s.toList.map Terminal.foldLetter = s.toList := by
    conv_rhs => rw [← List.map_id s.toList]
    exact List.map_congr_left fun c hc => (h.small_eq c hc).2
  refine ⟨⟨h.isAlphanum, ?_⟩, ?_⟩
  · have hhead := h.head
    cases hs : s.toList with
    | nil => simp [hs] at hhead
    | cons c w =>
      have hc : c.isLower := by simpa [hs] using hhead
      simp [Char.isAlpha, hc]
  · have hnot : s ∉ Terminal.prefixWords := h.notPrefix
    simpa [Terminal.isOneOf, hfold] using hnot

end IsPlainMnemonic

namespace PrefixMask

/-- Only the bits of the four prefixes are set. -/
def Known (mask : PrefixMask) : Prop := 0 ≤ mask.bits ∧ mask.bits < 16

/-- There are sixteen known masks to look at. -/
theorem forall_known {P : PrefixMask → Prop} (h : ∀ n : Nat, n < 16 → P ⟨n⟩) {mask : PrefixMask}
    (hmask : mask.Known) : P mask := by
  obtain ⟨hlow, hhigh⟩ := hmask
  obtain ⟨n, hn⟩ := Int.eq_ofNat_of_zero_le hlow
  have heq : mask = ⟨n⟩ := congrArg PrefixMask.mk hn
  rw [heq]
  exact h n (by omega)

theorem prefixMask_toList {mask : PrefixMask} (h : mask.Known) :
    prefixMask (mask.toList.map Prefix.word) = mask :=
  forall_known (P := fun mask => prefixMask (mask.toList.map Prefix.word) = mask) (by decide +kernel) h

end PrefixMask

/-- The instruction that is read from the text of an instruction. -/
def Instruction.reread (signed : Bool) (i : Instruction) : Instruction :=
  { i with operands := i.operands.map (Operand.reread signed) }

theorem Operand.reread_kind_size (signed : Bool) (op : Operand) :
    (op.reread signed).kind = op.kind ∧ (op.reread signed).size = op.size := by
  unfold Operand.reread
  split <;> exact ⟨rfl, rfl⟩

theorem Operand.immediateSize_reread (signed : Bool) (ops : List Operand) :
    immediateSize (ops.map (reread signed)) = immediateSize ops := by
  have hgives (op : Operand) : (op.reread signed).givesSize = op.givesSize := by
    rw [givesSize, givesSize, (reread_kind_size signed op).1, (reread_kind_size signed op).2]
  rw [immediateSize, immediateSize, List.find?_map]
  simp only [Function.comp_def, hgives, Option.map_map, (reread_kind_size signed _).2]

theorem Phrase.draft_decorator (r : Rounding) : draft (.decorator r.decorator) = .ok (.rounding r) := by
  have hread : readRounding r.decorator = .ok r := by
    cases r <;> rfl
  rw [draft, hread]
  rfl

namespace Formatter
variable {d : Dialect} {signed : Bool} {i : Instruction}

private theorem exists_drafts {f : Formatter} {mnemonic : String} {size : Int} {ops : List Operand}
    {ps : List Phrase}
    (h : List.Forall₂ (fun op p => f.Rewrites mnemonic size op (op.reread signed) p) ops ps) :
    ∃ ds : List Draft, List.Forall₂ (fun p draft => p.draft = .ok draft) ps ds ∧
      List.Forall₂ (fun draft o => draft.Becomes mnemonic size false o) ds
        (ops.map fun op => some (op.reread signed)) := by
  induction h with
  | nil => exact ⟨[], .nil, .nil⟩
  | cons hop _ ih =>
    obtain ⟨ds, hds, hos⟩ := ih
    obtain ⟨draft, hdraft, hbecomes⟩ := hop.meaning
    exact ⟨draft :: ds, .cons hdraft hds, .cons hbecomes hos⟩

/-- Drafts that become operands are no rounding controls. -/
private theorem rounding?_of_becomes {mnemonic : String} {size : Int} {ds : List Draft}
    {os : List (Option Operand)}
    (h : List.Forall₂ (fun draft o => draft.Becomes mnemonic size false o) ds os)
    (hos : none ∉ os) : ds.filterMap Draft.rounding? = [] := by
  rw [List.filterMap_eq_nil_iff]
  intro draft hmem
  obtain ⟨o, ho, hbecomes⟩ := exists_of_forall₂ h.flip hmem
  cases hbecomes with
  | rounding r => exact absurd ho hos
  | register | memory | shortBranch | branch | immediate => rfl

/-- The sentence of phrases for the operands and the rounding control stands for the reread
instruction. -/
private theorem instruction_plain {f : Formatter} (hm : IsPlainMnemonic i.mnemonic)
    (hp : i.prefixes.Known) {ps : List Phrase} (hps : List.Forall₂ (fun op p =>
      f.Rewrites i.mnemonic (Operand.immediateSize i.operands) op (op.reread signed) p) i.operands ps) :
    (Sentence.plain i.prefixes.toList i.mnemonic
      (ps ++ i.rounding.toList.map fun r => .decorator r.decorator)).instruction =
      .ok (i.reread signed) := by
  obtain ⟨ds, hds, hos⟩ := exists_drafts hps
  let all : List (Draft × Bool) := (ds ++ i.rounding.toList.map Draft.rounding).map (·, false)
  let results : List (Option Operand) :=
    i.operands.map (fun op => some (op.reread signed)) ++ i.rounding.toList.map fun _ => none
  have hresults : results.filterMap id = i.operands.map (Operand.reread signed) := by
    cases hr : i.rounding <;> simp [results, hr, List.filterMap_map]
  have hbecomes : List.Forall₂ (fun x o => Draft.Becomes i.mnemonic
      (Operand.immediateSize i.operands) x.2 x.1 o) all results := by
    refine List.forall₂_map_left_iff.mpr (List.rel_append hos ?_)
    cases i.rounding with
    | none => exact .nil
    | some r => exact .cons (.rounding r) .nil
  have hrounding : all.filterMap (fun x => x.1.rounding?) = i.rounding.toList := by
    have hnone := rounding?_of_becomes hos (by simp)
    have hlast (r : Rounding) : (Draft.rounding r).rounding? = some r := rfl
    simp only [all, List.filterMap_map, List.filterMap_append, Function.comp_def, hnone, hlast,
      List.nil_append, List.filterMap_some]
  obtain ⟨n, hn⟩ := Draft.exists_immediateSize hbecomes
  have hsize : n = Operand.immediateSize i.operands := by
    rw [← Draft.immediateSize_operands hbecomes hn, hresults, Operand.immediateSize_reread]
  refine Sentence.instruction_eq_ok.mpr ⟨all, n, results, ?_, ?_, hn, ?_, ?_⟩
  · refine List.forall₂_map_left_iff.mpr (List.forall₂_map_right_iff.mpr ?_)
    refine List.rel_append (hds.imp fun p draft h => ⟨h, rfl⟩) ?_
    cases i.rounding with
    | none => exact .nil
    | some r => exact .cons ⟨Phrase.draft_decorator r, rfl⟩ .nil
  · rw [hrounding]
    cases i.rounding <;> simp
  · rw [hsize, Sentence.plain, hm.lower_eq]
    exact hbecomes
  · rw [hrounding, hresults, Sentence.plain, hm.lower_eq, PrefixMask.prefixMask_toList hp,
      Instruction.reread]
    cases i.rounding <;> rfl

/-- An instruction is written, and from its text its normal form is read. -/
theorem read_instruction (hd : d.Plain) (hm : IsPlainMnemonic i.mnemonic) (hp : i.prefixes.Known)
    (hround : ¬(plain d signed).Inexpressible i)
    (hshown : ∀ op ∈ i.operands, d.showImplicit || !op.implicit)
    (hops : ∀ op ∈ i.operands, op.Readable i.mnemonic (Operand.immediateSize i.operands)) :
    ((plain d signed).instruction i).failure = none ∧
      Instruction.read ((plain d signed).instruction i).text = .ok (i.reread signed) := by
  obtain ⟨ps, hps⟩ := exists_forall₂ fun op hop => @exists_phrase d signed hd _ _ op (hops op hop)
  have hspelled : ∀ p ∈ ps ++ i.rounding.toList.map fun r => .decorator r.decorator, p.Spelled := by
    intro p hmem
    rcases List.mem_append.mp hmem with hmem | hmem
    · obtain ⟨op, -, hop⟩ := exists_of_forall₂ hps hmem
      exact hop.spelled
    · obtain ⟨r, -, rfl⟩ := List.mem_map.mp hmem
      cases r <;> simp [Phrase.Spelled, Terminal.decorators, Rounding.decorator, Rounding.word]
  obtain ⟨hfailure, htext⟩ := instruction_text hd hround hshown (hps.imp fun op p h => h.written)
  refine ⟨hfailure, ?_⟩
  rw [htext]
  exact Instruction.read_eq_ok.mpr ⟨_, Sentence.parse?_spelling _ hm.isMnemonic hspelled,
    instruction_plain hm hp hps⟩

end Formatter
end AsmListing
