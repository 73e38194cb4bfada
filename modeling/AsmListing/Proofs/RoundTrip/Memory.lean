import Mathlib
import AsmListing.Proofs.RoundTrip.Operands

/-! A memory operand is written as a phrase whose summands add up to the operand that is read from it. -/
namespace AsmListing
open Outcome

theorem Term.value_register (r : Register) : (register r.name).value = .ok (.register r) := by
  rw [value, readRegister_name]
  rfl

namespace Phrase

/-- The summands add up from one place to another. -/
def Sums (first : Term) (more : List (Sign × Term)) (place place' : MemoryPlace) : Prop :=
  ∃ v vs, first.value = .ok v ∧ (more.mapM fun (sign, term) => term.value.map (sign, ·)) = .ok vs ∧
    ((Sign.plus, v) :: vs).foldlM MemoryPlace.add place = .ok place'

theorem draft_memory {size segment : Option String} {first : Term} {more : List (Sign × Term)}
    {r : Register} {place : MemoryPlace} (hsegment : segment.elim (.ok .none) readRegister = .ok r)
    (h : Sums first more { size := size.elim 0 memorySize, segment := r } place) :
    draft (.memory size segment first more) = .ok (.memory place) := by
  obtain ⟨v, vs, hv, hvs, hplace⟩ := h
  refine bind_eq_ok.mpr ⟨r, hsegment, bind_eq_ok.mpr ⟨v, hv, bind_eq_ok.mpr ⟨vs, hvs, ?_⟩⟩⟩
  exact bind_eq_ok.mpr ⟨place, hplace, rfl⟩

end Phrase

namespace Formatter
open Phrase (moreSpelling Sums)
variable {d : Dialect} {signed : Bool} {op : Operand} {base index segment : Register}

/-- An index with its factor, which is left out if it is one. -/
def indexTerm (index : Register) (scale : Int) : Term :=
  if scale = 1 then .register index.name else .scaled index.name (toString scale)

def displacementText (f : Formatter) (op : Operand) : String :=
  (NumberOptions.drawn .displacement f.options).render 64 (f.shownDisplacement op)

/-- The displacement as a summand next to registers. -/
def displacementTerms (f : Formatter) (op : Operand) : List (Sign × Term) :=
  if signedDisplacement op = 0 then []
  else [(if f.showsMinus op then .minus else .plus, .number (f.displacementText op))]

private theorem spells_displacement (d : Dialect) (signed : Bool) (op : Operand) :
    Numeral.Spells ((plain d signed).shownDisplacement op)
      ((plain d signed).displacementText op).toList :=
  plain_spells d signed .displacement 64 _

private theorem value_displacement (d : Dialect) (signed : Bool) (op : Operand) :
    (Term.number ((plain d signed).displacementText op)).value =
      .ok (.number ((plain d signed).shownDisplacement op)) := by
  rw [Term.value, displacementText, plain_numberValue]
  rfl

theorem displacementTerms_spelled (d : Dialect) (signed : Bool) (op : Operand) :
    ∀ x ∈ (plain d signed).displacementTerms op, x.2.Spelled := by
  rw [displacementTerms]
  split
  · simp
  · simpa using ⟨_, spells_displacement d signed op⟩

/-- The summand for the displacement adds the signed displacement. -/
private theorem sums_displacement (h : hasRegisters op = true) :
    ∃ vs, (((plain d signed).displacementTerms op).mapM fun (sign, term) =>
        term.value.map (sign, ·)) = .ok vs ∧
      ∀ place : MemoryPlace, vs.foldlM MemoryPlace.add place =
        .ok { place with displacement := place.displacement + signedDisplacement op } := by
  have hvalue := value_displacement d signed op
  have hminus : (plain d signed).showsMinus op = decide (signedDisplacement op < 0) := by
    have hshown : (plain d signed).options.signedDisplacements = true := rfl
    rw [showsMinus, h, hshown, Bool.true_and, Bool.and_true]
  have hunsigned := unsignedDisplacement_bounds op
  rw [displacementTerms]
  by_cases hzero : signedDisplacement op = 0
  · refine ⟨[], by rw [if_pos hzero]; rfl, fun place => ?_⟩
    rw [hzero, add_zero]
    rfl
  · rw [if_neg hzero]
    by_cases hneg : signedDisplacement op < 0
    · have hshown : ((plain d signed).shownDisplacement op : Int) = -signedDisplacement op := by
        simp only [shownDisplacement, hminus, hneg, decide_true, if_true]
        omega
      refine ⟨[(.minus, .number (-signedDisplacement op))], ?_, fun place => ?_⟩
      · rw [hminus, decide_eq_true hneg, ← hshown]
        exact mapM_eq_ok.mpr (.cons (map_eq_ok.mpr ⟨_, hvalue, rfl⟩) .nil)
      · simp [List.foldlM_cons, MemoryPlace.add]
    · have hsame : unsignedDisplacement op = signedDisplacement op := by
        simp only [signedDisplacement] at hneg ⊢
        split at hneg <;> omega
      have hshown : ((plain d signed).shownDisplacement op : Int) = signedDisplacement op := by
        simp only [shownDisplacement, hminus, hneg, decide_false, Bool.false_eq_true, if_false]
        omega
      refine ⟨[(.plus, .number (signedDisplacement op))], ?_, fun place => ?_⟩
      · rw [hminus, decide_eq_false hneg, ← hshown]
        exact mapM_eq_ok.mpr (.cons (map_eq_ok.mpr ⟨_, hvalue, rfl⟩) .nil)
      · simp [List.foldlM_cons, MemoryPlace.add]

private theorem scale_nonneg {scale : Int} (h : scale ∈ ([1, 2, 4, 8] : List Int)) : 0 ≤ scale :=
  zero_le_one.trans (Operand.one_le_of_mem h)

private theorem indexTerm_spelled (index : Register) {scale : Int}
    (hscale : scale ∈ ([1, 2, 4, 8] : List Int)) : (indexTerm index scale).Spelled := by
  rw [indexTerm]
  split
  · exact index.isOperandName.1
  · exact ⟨index.isOperandName.1, _, Numeral.spells_toString (scale_nonneg hscale)⟩

/-- What the index adds: without a factor it can become the base. -/
private theorem indexTerm_value (index : Register) {scale : Int}
    (hscale : scale ∈ ([1, 2, 4, 8] : List Int)) : (indexTerm index scale).value =
      .ok (if scale = 1 then .register index else .scaled index scale) := by
  have hfactor : numberValue (toString scale) = .ok scale := by
    have hshort : ∀ n ∈ ([1, 2, 4, 8] : List Int), ¬Numeral.TooLong (toString n).toList := by
      decide
    have hvalue := (Numeral.spells_toString (scale_nonneg hscale)).numberValue (hshort scale hscale)
    rwa [Int.toNat_of_nonneg (scale_nonneg hscale)] at hvalue
  rw [indexTerm]
  split
  · exact Term.value_register index
  · exact bind_eq_ok.mpr ⟨index, readRegister_name index, bind_eq_ok.mpr ⟨scale, hfactor, rfl⟩⟩

/-- The place that the summands of an operand add up to. -/
def summed (z : Int) (segment base index : Register) (op : Operand) : MemoryPlace :=
  { size := z, segment := segment
    base := if base = .none ∧ op.scale = 1 then index else base
    index := if base = .none ∧ op.scale = 1 then Register.none else index
    scale := if index = .none then 1 else op.scale
    displacement := if base = .none ∧ index = .none then unsignedDisplacement op
      else signedDisplacement op }

private theorem spelling_displacementTerms (f : Formatter) (op : Operand) (h : hasRegisters op = true) :
    (f.displacementTokens op).flatMap (·.text.toList) = moreSpelling (f.displacementTerms op) := by
  rw [displacementTokens, displacementTerms, h]
  by_cases hzero : signedDisplacement op = 0
  · simp [hzero, moreSpelling]
  · cases f.showsMinus op <;>
      simp [hzero, moreSpelling, displacementToken, displacementText, Sign.char, Term.spelling]

private theorem spelling_indexTerm (hd : d.Plain) (index : Register) (scale : Int) :
    ((plain d signed).registerToken index :: if scale = 1 then [] else
      [⟨.operator, "*"⟩, scaleToken scale]).flatMap (·.text.toList) = (indexTerm index scale).spelling := by
  by_cases hs : scale = 1 <;>
    simp [hs, indexTerm, Term.spelling, registerToken, plain_registerText hd, scaleToken]

/-- The tokens spell summands that add up to a place. -/
def SpellsSum (tokens : List Token) (z : Int) (segment : Register) (place : MemoryPlace) : Prop :=
  ∃ first more, first.Spelled ∧ (∀ x ∈ more, x.2.Spelled) ∧
    tokens.flatMap (·.text.toList) = first.spelling ++ moreSpelling more ∧
    Sums first more { size := z, segment := segment } place

/-- An absolute address is a single number. -/
private theorem spellsSum_absolute (h : hasRegisters op = false) (z : Int) (segment : Register) :
    SpellsSum ((plain d signed).displacementTokens op) z segment
      { size := z, segment := segment, displacement := unsignedDisplacement op } := by
  have hshown : ((plain d signed).shownDisplacement op : Int) = unsignedDisplacement op := by
    have hbounds := unsignedDisplacement_bounds op
    simp only [shownDisplacement, showsMinus, h, Bool.false_and, Bool.false_eq_true, if_false]
    omega
  have hvalue := value_displacement d signed op
  rw [hshown] at hvalue
  refine ⟨.number ((plain d signed).displacementText op), [], ⟨_, spells_displacement d signed op⟩,
    by simp, ?_, _, [], hvalue, rfl, ?_⟩
  · simp [displacementTokens, displacementToken, displacementText, h, Term.spelling, moreSpelling]
  · simp [MemoryPlace.add]

/-- A register, or a register with a factor, comes before the displacement. -/
private theorem spellsSum_first {tokens : List Token} {first : Term} {v : TermValue}
    {place : MemoryPlace} {z : Int} (h : hasRegisters op = true) (hfirst : first.Spelled)
    (htext : tokens.flatMap (·.text.toList) = first.spelling) (hv : first.value = .ok v)
    (hadd : MemoryPlace.add { size := z, segment := segment } (.plus, v) = .ok place) :
    SpellsSum (tokens ++ (plain d signed).displacementTokens op) z segment
      { place with displacement := place.displacement + signedDisplacement op } := by
  obtain ⟨vs, hvs, hfold⟩ := @sums_displacement d signed op h
  refine ⟨first, _, hfirst, displacementTerms_spelled d signed op, ?_, v, vs, hv, hvs, ?_⟩
  · rw [List.flatMap_append, spelling_displacementTerms _ _ h, htext]
  · rw [List.foldlM_cons, hadd]
    exact hfold place

/-- Next to a base, the index is not taken for one, with a factor or without. -/
private theorem add_index {z : Int} (hb : base ≠ .none) (index : Register) (scale : Int) :
    MemoryPlace.add { size := z, segment := segment, base := base }
        (.plus, if scale = 1 then .register index else .scaled index scale) =
      .ok { size := z, segment := segment, base := base, index := index, scale := scale } := by
  by_cases hs : scale = 1
  · simp [hs, MemoryPlace.add, RegisterValue.isAbsent_register, hb]
  · simp [hs, MemoryPlace.add, RegisterValue.isAbsent_register]

/-- A base and an index come before the displacement. -/
private theorem spellsSum_base_index (hd : d.Plain) (hb : base ≠ .none) (hi : index ≠ .none)
    (h : hasRegisters op = true) (hscale : op.scale ∈ ([1, 2, 4, 8] : List Int)) (z : Int)
    (segment : Register) :
    SpellsSum ((plain d signed).sumTokens base index op.scale ++ (plain d signed).displacementTokens op)
      z segment
      { size := z, segment := segment, base := base, index := index, scale := op.scale
        displacement := signedDisplacement op } := by
  have hindexText := @spelling_indexTerm d signed hd index op.scale
  obtain ⟨vs, hvs, hfold⟩ := @sums_displacement d signed op h
  refine ⟨.register base.name, (.plus, indexTerm index op.scale) :: (plain d signed).displacementTerms op,
    base.isOperandName.1, ?_, ?_, _, _, Term.value_register base, mapM_eq_ok.mpr
      (.cons (map_eq_ok.mpr ⟨_, indexTerm_value index hscale, rfl⟩) (mapM_eq_ok.mp hvs)), ?_⟩
  · exact List.forall_mem_cons.mpr
      ⟨indexTerm_spelled index hscale, displacementTerms_spelled d signed op⟩
  · have hmore : moreSpelling ((.plus, indexTerm index op.scale) ::
        (plain d signed).displacementTerms op) = '+' :: ((indexTerm index op.scale).spelling ++
        moreSpelling ((plain d signed).displacementTerms op)) := rfl
    rw [List.flatMap_append, spelling_displacementTerms _ _ h, hmore, ← hindexText]
    simp [sumTokens, hb, hi, registerToken, plain_registerText hd, Term.spelling]
  · rw [List.foldlM_cons, bind_eq_ok]
    refine ⟨_, rfl, ?_⟩
    rw [List.foldlM_cons, bind_eq_ok]
    exact ⟨_, add_index hb index op.scale, by simp [hfold]⟩

/-- The tokens between the brackets spell summands that add up to the operand. -/
private theorem spellsSum_operand (hd : d.Plain) (hbase : op.base = base) (hindex : op.index = index)
    (hscale : op.scale ∈ ([1, 2, 4, 8] : List Int)) (z : Int) (segment : Register) :
    SpellsSum ((plain d signed).sumTokens base index op.scale ++ (plain d signed).displacementTokens op)
      z segment (summed z segment base index op) := by
  have hregisters := hasRegisters_eq hbase hindex
  by_cases hb : base = .none
  · by_cases hi : index = .none
    · have hnone : hasRegisters op = false := by simp [hregisters, hb, hi]
      simpa [sumTokens, summed, hb, hi] using @spellsSum_absolute d signed op hnone z segment
    · have hsome : hasRegisters op = true := by simp [hregisters, hi]
      have htext := @spelling_indexTerm d signed hd index op.scale
      have hvalue := indexTerm_value index hscale
      -- Without a base, the index takes its place unless it has a factor.
      by_cases hs : op.scale = 1
      · rw [if_pos hs] at hvalue
        simpa [sumTokens, summed, hb, hi, hs] using @spellsSum_first d signed op segment _ _ _ _ z hsome
          (indexTerm_spelled index hscale) htext hvalue rfl
      · rw [if_neg hs] at hvalue
        simpa [sumTokens, summed, hb, hi, hs] using @spellsSum_first d signed op segment _ _ _ _ z hsome
          (indexTerm_spelled index hscale) htext hvalue rfl
  · have hsome : hasRegisters op = true := by simp [hregisters, hb]
    by_cases hi : index = .none
    · have hspelled : (Term.register base.name).Spelled := base.isOperandName.1
      have htext : [(plain d signed).registerToken base].flatMap (·.text.toList) =
          (Term.register base.name).spelling := by
        simp [registerToken, plain_registerText hd, Term.spelling]
      simpa [sumTokens, summed, hb, hi] using @spellsSum_first d signed op segment _ _ _ _ z hsome
        hspelled htext (Term.value_register base) rfl
    · simpa [summed, hb, hi] using
        @spellsSum_base_index d signed op base index hd hb hi hsome hscale z segment

/-- The words for a size, as one lexeme. -/
def sizeText? (width : Int) : Option String := (sizeKeyword? width).map (· ++ " ptr")

def segmentText? (segment : Register) : Option String :=
  if segment = .none then none else some segment.name

private theorem sizeText?_spec (hd : d.Plain) {width : Int}
    (h : width ∈ ([0, 1, 2, 4, 8, 16] : List Int)) :
    ((plain d signed).sizeTokens width).flatMap (·.text.toList) =
      (sizeText? width).elim [] (fun s => s.toList ++ [' ']) ∧
    (∀ s ∈ sizeText? width, s ∈ Phrase.sizeTexts) ∧ (sizeText? width).elim 0 memorySize = width := by
  have hstyle : (plain d signed).dialect.memoryStyle = .intel := hd.memoryStyle
  have hwords (word : String) : ((plain d signed).keywordTokens word).flatMap (·.text.toList) =
      word.toList ++ [' '] := by
    have hcased : (plain d signed).cased (plain d signed).options.uppercaseKeywords word = word := rfl
    simp [keywordTokens, hcased]
  have hshown : (plain d signed).options.showMemorySize = true := rfl
  simp only [List.mem_cons, List.not_mem_nil, or_false] at h
  rw [sizeTokens, hstyle, hshown]
  rcases h with rfl | rfl | rfl | rfl | rfl | rfl
  · exact ⟨rfl, by simp [sizeText?, sizeKeyword?], rfl⟩
  all_goals
    refine ⟨?_, ?_, by decide⟩
    · simp [sizeKeyword?, sizeText?, hwords]
    · simp [sizeKeyword?, sizeText?, Phrase.sizeTexts]

private theorem segmentText?_spec (hd : d.Plain) (segment : Register) :
    ((plain d signed).segmentTokens segment).flatMap (·.text.toList) =
      (segmentText? segment).elim [] (fun s => s.toList ++ [':']) ∧
    (∀ s ∈ segmentText? segment, IsOperandName s) ∧
    (segmentText? segment).elim (.ok .none) readRegister = .ok segment := by
  by_cases hs : segment = .none
  · simp [segmentText?, segmentTokens, hs]
  · simp [segmentText?, segmentTokens, hs, registerToken, plain_registerText hd, readRegister_name,
      segment.isOperandName]

/-- The normal form of a memory operand in terms of its registers. -/
theorem reread_memory (signed : Bool) (base index segment : Register) (width scale displacement : Int)
    (implicit : Bool) :
    let op : Operand :=
      { kind := .memory, size := width, base, index, scale, displacement, segment, implicit }
    op.reread signed =
      { kind := .memory, size := width, segment := segment
        base := (if base = .none ∧ scale = 1 then index else base : Register)
        index := (if base = .none ∧ scale = 1 then .none else index : Register)
        scale := if index = .none then 1 else scale
        displacement := if base = .none ∧ index = .none then unsignedDisplacement op
          else signedDisplacement op } := by
  intro op
  have hregisters : hasRegisters op = decide (base ≠ .none ∨ index ≠ .none) := hasRegisters_eq rfl rfl
  simp only [Operand.reread, hregisters]
  by_cases hb : base = .none <;> by_cases hs : scale = 1 <;> by_cases hi : index = .none <;>
    simp [op, hb, hs, hi, RegisterValue.isAbsent_register]

/-- The place passes the checks that the operand passed, and the operand built from it is the one
reread. -/
private theorem ofMemory_summed {width scale displacement : Int} (implicit : Bool)
    (hc : Operand.MemoryChecked width scale displacement segment) :
    let op : Operand :=
      { kind := .memory, size := width, base, index, scale, displacement, segment, implicit }
    Operand.ofMemory (summed width segment base index op) .read false = .ok (op.reread signed) := by
  intro op
  have hunsigned := unsignedDisplacement_bounds op
  have hsigned := signedDisplacement_bounds op
  have hpower : twoPower 63 < twoPower 64 := by decide
  refine Operand.ofMemory_eq_ok.mpr ⟨if base = .none ∧ scale = 1 then index else base,
    if base = .none ∧ scale = 1 then .none else index, segment, ?_, ?_, rfl, ⟨hc.size_mem, ?_,
      hc.isSegment, ?_⟩, ?_⟩
  · by_cases hb : base = .none ∧ scale = 1 <;> simp [summed, op, hb, RegisterValue.register?]
  · by_cases hb : base = .none ∧ scale = 1 <;> simp [summed, op, hb, RegisterValue.register?]
  · by_cases hi : index = .none
    · simp [summed, hi]
    · simpa [summed, hi] using hc.scale_mem
  · simp only [summed]
    split <;> omega
  · exact reread_memory signed base index segment width scale displacement implicit

theorem rewrites_memory (hd : d.Plain) {mnemonic : String} {size width scale displacement : Int}
    (implicit : Bool) (hc : Operand.MemoryChecked width scale displacement segment) :
    let op : Operand :=
      { kind := .memory, size := width, base, index, scale, displacement, segment, implicit }
    ∃ p, Rewrites (plain d signed) mnemonic size op (op.reread signed) p := by
  intro op
  obtain ⟨hsizeText, hsizeMem, hsize⟩ := @sizeText?_spec d signed hd width hc.size_mem
  obtain ⟨hsegmentText, hsegmentName, hsegment⟩ := @segmentText?_spec d signed hd segment
  obtain ⟨first, more, hfirst, hmore, htext, hsums⟩ :=
    @spellsSum_operand d signed op base index hd rfl rfl hc.scale_mem width segment
  have hstyle : (plain d signed).dialect.memoryStyle = .intel := hd.memoryStyle
  have hwritten : (plain d signed).realOperand op = (plain d signed).bracketed op := by
    rw [realOperand, memory, hstyle]
  rw [@bracketed_eq_ofTokens _ (plain_valid d signed) (plain_tight d signed) op base index segment
    rfl rfl rfl, hstyle] at hwritten
  refine ⟨.memory (sizeText? width) (segmentText? segment) first more, ⟨_, hwritten, ?_⟩,
    ⟨hsizeMem, hsegmentName, hfirst, hmore⟩, .memory (summed width segment base index op), ?_, ?_⟩
  · simp only [List.flatMap_append, List.flatMap_cons, List.flatMap_nil] at htext ⊢
    simp [hsizeText, hsegmentText, htext, Phrase.spelling, op]
  · exact Phrase.draft_memory hsegment (by rw [hsize]; exact hsums)
  · exact .memory (ofMemory_summed implicit hc)

end Formatter
end AsmListing
