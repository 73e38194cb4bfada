import Mathlib
import AsmListing.Proofs.Address.Lexing
import AsmListing.Proofs.Formatter.MemoryForms

/-! The text of a memory operand shows its parts and nothing else. Displacements count modulo 2⁶⁴, and
between brackets an index that stands alone without a factor is the same as a base. -/
namespace AsmListing
open Operand (content content_register)

namespace Operand

/-- The registers of a memory operand, and a scale that an index can have. -/
structure Refers (op : Operand) (base index segment : Register) : Prop where
  base : op.base = base
  index : op.index = index
  segment : op.segment = segment
  scale : op.scale ∈ ([1, 2, 4, 8] : List Int)

/-- A promoted operand with an index has also a base or a factor. -/
theorem Refers.promoted {op : Operand} {base index segment : Register} (h : op.Refers base index segment) :
    ∃ base' index' : Register, op.promoted.Refers base' index' segment ∧
      (index' ≠ .none → base' ≠ .none ∨ op.promoted.scale ≠ 1) := by
  rw [Operand.promoted, h.base, RegisterValue.isAbsent_register]
  by_cases hb : base = .none
  · by_cases hs : op.scale = 1
    · rw [if_pos ⟨decide_eq_true hb, hs⟩]
      exact ⟨index, .none, ⟨h.index, rfl, h.segment, h.scale⟩, fun hne => absurd rfl hne⟩
    · rw [if_neg fun hboth => hs hboth.2]
      exact ⟨base, index, h, fun _ => .inr hs⟩
  · rw [if_neg fun hboth => hb (of_decide_eq_true hboth.1)]
    exact ⟨base, index, h, fun _ => .inl hb⟩

end Operand

namespace Address
variable {f : Formatter} {op op' : Operand} {base index segment base' index' segment' : Register}

/-- The registers that are present. -/
def present (rs : List Register) : List Register := rs.filter (· ≠ .none)

/-- Tokens of other classes name no register. -/
private theorem register?_eq_none {t : Token} (h : t.cls ≠ .register) : register? t = none := if_neg h

private theorem filterMap_register? {ts : List Token} (h : ∀ t ∈ ts, t.cls ≠ .register) :
    ts.filterMap register? = [] :=
  List.filterMap_eq_nil_iff.mpr fun t ht => register?_eq_none (h t ht)

private theorem Clear.registers_segment (h : Clear f) (segment : Register) :
    (f.segmentTokens segment).filterMap register? = present [segment] := by
  by_cases hs : segment = .none
  · simp [Formatter.segmentTokens, present, hs]
  · simp [Formatter.segmentTokens, present, hs, h.registers segment hs, register?_eq_none]

private theorem Clear.registers_sum (h : Clear f) (base index : Register) (scale : Int) :
    (f.sumTokens base index scale).filterMap register? = present [base, index] := by
  by_cases hb : base = .none <;> by_cases hi : index = .none <;> by_cases hs : scale = 1 <;>
    simp [Formatter.sumTokens, Formatter.scaleToken, present, hb, hi, hs, h.registers, register?_eq_none]

private theorem Clear.registers_list (h : Clear f) (base index : Register) (scale : Int) :
    (f.listTokens base index scale).filterMap register? = present [base, index] := by
  by_cases hb : base = .none <;> by_cases hi : index = .none <;> by_cases hs : scale = 1 <;>
    simp [Formatter.listTokens, Formatter.scaleToken, present, hb, hi, hs, h.registers, register?_eq_none]

/-- The registers are named in the same order in all styles. -/
theorem Clear.registers_memory (h : Clear f) (hop : op.Refers base index segment) :
    (f.memory op).tokens.filterMap register? = present [segment] ++ present [base, index] := by
  have hsegment := h.registers_segment segment
  rw [Formatter.memory]
  split
  · have hfront : (f.frontTokens op).filterMap register? = [] := filterMap_register? fun t ht => by
      rcases frontTokens_cls f op t ht with hcls | hcls <;> simp [hcls]
    have hlist := h.registers_list base index op.scale
    rw [Formatter.parenthesized_eq_ofTokens h.valid hop.base hop.index hop.segment,
      Emission.tokens_ofTokens, List.filterMap_append, List.filterMap_append, hsegment, hfront,
      Formatter.hasRegisters_eq hop.base hop.index]
    by_cases hsome : base ≠ .none ∨ index ≠ .none
    · simp [hsome, hlist, register?_eq_none]
    · obtain ⟨hb, hi⟩ : base = .none ∧ index = .none := by simpa using hsome
      simp [present, hb, hi]
  · have hsize : (f.sizeTokens op.size).filterMap register? = [] := filterMap_register? fun t ht => by
      rcases sizeTokens_cls f op.size t ht with hcls | hcls <;> simp [hcls]
    have hdisplacement : (f.displacementTokens op).filterMap register? = [] := by
      unfold Formatter.displacementTokens Formatter.displacementToken
      split
      · simp [register?_eq_none]
      · split <;> simp [register?_eq_none]
    have hsum := h.registers_sum base index op.scale
    rw [Formatter.bracketed_eq_ofTokens h.valid h.tight hop.base hop.index hop.segment]
    by_cases hinner : f.dialect.memoryStyle = .nasm <;>
      simp [hinner, hsize, hsegment, hsum, hdisplacement, register?_eq_none]

theorem Clear.faithful (h : Clear f) (hop : op.Refers base index segment) : Faithful f op := by
  by_cases hstyle : f.dialect.memoryStyle = .gas
  · exact h.faithful_parenthesized hstyle hop.base hop.index hop.segment hop.scale
  · exact h.faithful_bracketed hstyle hop.base hop.index hop.segment hop.scale

/-- Around parentheses there is a comma for the index and for nothing else. -/
theorem Clear.comma_mem_memory (h : Clear f) (hstyle : f.dialect.memoryStyle = .gas)
    (hop : op.Refers base index segment) :
    ⟨.punctuation, ","⟩ ∈ (f.memory op).tokens ↔ index ≠ .none := by
  have hsegment : ⟨.punctuation, ","⟩ ∉ f.segmentTokens segment := by
    by_cases hs : segment = .none <;> simp [Formatter.segmentTokens, hs, Formatter.registerToken]
  have hfront : ⟨.punctuation, ","⟩ ∉ f.frontTokens op := fun hmem => by
    rcases frontTokens_cls f op _ hmem with hcls | hcls <;> cases hcls
  have hlist : ⟨.punctuation, ","⟩ ∈ f.listTokens base index op.scale ↔ index ≠ .none := by
    by_cases hb : base = .none <;> by_cases hi : index = .none <;>
      simp [Formatter.listTokens, hb, hi, Formatter.registerToken]
  have hmemory : f.memory op = f.parenthesized op := by rw [Formatter.memory, hstyle]
  rw [hmemory, Formatter.parenthesized_eq_ofTokens h.valid hop.base hop.index hop.segment,
    Emission.tokens_ofTokens, List.mem_append, List.mem_append, or_iff_right hsegment, or_iff_right hfront,
    Formatter.hasRegisters_eq hop.base hop.index]
  by_cases hsome : base ≠ .none ∨ index ≠ .none
  · simp [hsome, hlist]
  · obtain ⟨hb, hi⟩ : base = .none ∧ index = .none := by simpa using hsome
    simp [hb, hi]

private theorem memory_eq_bracketed (hstyle : f.dialect.memoryStyle ≠ .gas) (op : Operand) :
    f.memory op = f.bracketed op := by
  rw [Formatter.memory]
  split
  · next hgas => exact absurd hgas hstyle
  · rfl

/-- The first keyword names the size. -/
theorem Spelled.size_memory (h : Spelled f) (hstyle : f.dialect.memoryStyle ≠ .gas)
    (hshown : f.options.showMemorySize) (hop : op.Refers base index segment) :
    ((f.memory op).tokens.find? (·.cls = .keyword)).map Token.text = Formatter.sizeKeyword? op.size := by
  have hsegment : ∀ t ∈ f.segmentTokens segment, t.cls ≠ .keyword := by
    by_cases hs : segment = .none <;> simp [Formatter.segmentTokens, hs, Formatter.registerToken]
  have hsum : ∀ t ∈ f.sumTokens base index op.scale ++ f.displacementTokens op, t.cls ≠ .keyword := by
    intro t ht
    rcases sumTokens_cls f base index op.scale op t ht with hcls | hcls | hcls <;> simp [hcls]
  have hnone {ts : List Token} (hts : ∀ t ∈ ts, t.cls ≠ .keyword) : ts.find? (·.cls = .keyword) = none := by
    simpa using hts
  have hfind : (f.sizeTokens op.size).find? (·.cls = .keyword) =
      (Formatter.sizeKeyword? op.size).map (Token.mk .keyword) := by
    unfold Formatter.sizeTokens
    cases Formatter.sizeKeyword? op.size with
    | none => rfl
    | some word => simp [hshown, Formatter.keywordTokens, h.keyword]
  rw [memory_eq_bracketed hstyle,
    Formatter.bracketed_eq_ofTokens h.valid h.tight hop.base hop.index hop.segment,
    Emission.tokens_ofTokens, List.append_assoc, List.find?_append, hfind, hnone,
    Option.or_none, Option.map_map]
  · exact Option.map_id' ..
  · by_cases hinner : f.dialect.memoryStyle = .nasm <;>
      simpa [hinner, or_imp, forall_and] using And.intro hsegment hsum

/-- What equal tokens tell of two operands, in every style. -/
theorem Clear.parts_of_tokens_eq (h : Clear f) (hop : op.Refers base index segment)
    (hop' : op'.Refers base' index' segment') (htokens : (f.memory op).tokens = (f.memory op').tokens) :
    segment = segment' ∧ present [base, index] = present [base', index'] ∧
      ∀ regs, op.address regs ≡ op'.address regs [ZMOD 2 ^ 64] := by
  have hsegments : segment = segment' := by
    have hread := (h.faithful hop).segment
    rw [htokens, (h.faithful hop').segment, hop.segment, hop'.segment, RegisterValue.isAbsent_register,
      RegisterValue.isAbsent_register] at hread
    by_cases hs : segment = .none <;> by_cases hs' : segment' = .none <;>
      simp_all [RegisterValue.register?]
  have hregisters := h.registers_memory hop
  rw [htokens, h.registers_memory hop', hsegments] at hregisters
  refine ⟨hsegments, (List.append_cancel_left hregisters).symm, fun regs => ?_⟩
  obtain ⟨n, hn, hmod⟩ := (h.faithful hop).address regs
  obtain ⟨n', hn', hmod'⟩ := (h.faithful hop').address regs
  rw [htokens, hn'] at hn
  cases hn
  exact hmod.symm.trans hmod'

private theorem address_zero (op : Operand) : op.address 0 = op.displacement := by
  have hcontent (value : RegisterValue) : content 0 value = 0 := by
    unfold content
    split <;> rfl
  rw [Operand.address, hcontent, hcontent, zero_mul, zero_add, zero_add]

/-- How often a register counts in an address. -/
private def weight (base index : Register) (scale : Int) (r : Register) : Int :=
  (if base = r then 1 else 0) + if index = r then scale else 0

private theorem address_single {r : Register} (hr : r ≠ .none) (hop : op.Refers base index segment) :
    op.address (Pi.single r 1) = weight base index op.scale r + op.displacement := by
  have hcontent (x : Register) : content (Pi.single r 1) x = if x = r then 1 else 0 := by
    by_cases hx : x = .none
    · simp [hx, hr.symm]
    · rw [content_register _ hx, Pi.single_apply]
  rw [Operand.address, hop.base, hop.index, hcontent, hcontent, ite_mul, one_mul, zero_mul, weight]

private theorem weight_bounds (hop : op.Refers base index segment) (r : Register) :
    0 ≤ weight base index op.scale r ∧ weight base index op.scale r < 2 ^ 64 := by
  have hscale := hop.scale
  simp only [List.mem_cons, List.not_mem_nil, or_false] at hscale
  unfold weight
  split <;> split <;> omega

/-- The weights are so small that they are told by addresses modulo 2⁶⁴. -/
private theorem weight_eq (hop : op.Refers base index segment) (hop' : op'.Refers base' index' segment')
    (h : ∀ regs, op.address regs ≡ op'.address regs [ZMOD 2 ^ 64]) {r : Register} (hr : r ≠ .none) :
    weight base index op.scale r = weight base' index' op'.scale r := by
  have hdisplacement := h 0
  have hsingle := h (Pi.single r 1)
  rw [address_zero, address_zero] at hdisplacement
  rw [address_single hr hop, address_single hr hop'] at hsingle
  have hweight := hdisplacement.add_right_cancel hsingle
  have hbounds := weight_bounds hop r
  have hbounds' := weight_bounds hop' r
  rw [← Int.emod_eq_of_lt hbounds.1 hbounds.2, ← Int.emod_eq_of_lt hbounds'.1 hbounds'.2]
  exact hweight

/-- The registers in order and their weights tell which is which, if it is known whether there is an
index. -/
theorem sameRegisters_of_present (hop : op.Refers base index segment)
    (hop' : op'.Refers base' index' segment') (hlist : present [base, index] = present [base', index'])
    (h : ∀ regs, op.address regs ≡ op'.address regs [ZMOD 2 ^ 64])
    (hindex : index = .none ↔ index' = .none) : op.SameRegisters op' := by
  obtain ⟨rfl, rfl⟩ : base = base' ∧ index = index' := by
    by_cases hi : index = .none
    · have hi' := hindex.mp hi
      by_cases hb : base = .none <;> by_cases hb' : base' = .none <;> simp_all [present]
    · have hi' := mt hindex.mpr hi
      by_cases hb : base = .none <;> by_cases hb' : base' = .none <;> simp_all [present]
  refine ⟨hop.base.trans hop'.base.symm, hop.index.trans hop'.index.symm, fun hpresent => ?_⟩
  rw [hop.index, RegisterValue.isAbsent_register, decide_eq_false_iff_not] at hpresent
  -- the index may be the base too, which counts once on both sides
  have hweight := weight_eq hop hop' h hpresent
  rw [weight, weight, if_pos rfl, if_pos rfl] at hweight
  exact add_left_cancel hweight

/-- An index with a base or a factor is no base. -/
theorem index_absent_of_present (hop : op.Refers base index segment)
    (hop' : op'.Refers base' index' segment') (hlist : present [base, index] = present [base', index'])
    (h : ∀ regs, op.address regs ≡ op'.address regs [ZMOD 2 ^ 64])
    (hindex : index ≠ .none → base ≠ .none ∨ op.scale ≠ 1) (hi' : index' = .none) : index = .none := by
  by_contra hi
  have hweight := weight_eq hop hop' h hi
  by_cases hb : base = .none
  -- the one register counts once as the other base, and more often as an index with a factor
  · have hscale := (hindex hi).resolve_left (not_not.mpr hb)
    have hbase : index = base' := by
      by_cases hb' : base' = .none <;> simp_all [present]
    simp [weight, hb, hi', Ne.symm hi, ← hbase] at hweight
    exact hscale hweight
  · by_cases hb' : base' = .none <;> simp_all [present]

/-- The text tells the tokens, and these tell the segment, the registers and the address. -/
theorem Spelled.parts_of_text_eq (h : Spelled f) (hop : op.Refers base index segment)
    (hop' : op'.Refers base' index' segment') (htext : (f.memory op).text = (f.memory op').text) :
    (f.memory op).tokens = (f.memory op').tokens ∧ segment = segment' ∧
      present [base, index] = present [base', index'] ∧
      ∀ regs, op.address regs ≡ op'.address regs [ZMOD 2 ^ 64] := by
  have hapart := h.apart_memory hop.base hop.index hop.segment hop.scale
  have hapart' := h.apart_memory hop'.base hop'.index hop'.segment hop'.scale
  have htokens := hapart.eq_of_textOf_eq hapart' htext
  exact ⟨htokens, h.parts_of_tokens_eq hop hop' htokens⟩

/-- Around parentheses all parts but the size are shown. -/
theorem Spelled.parenthesized_text_iff (h : Spelled f) (hstyle : f.dialect.memoryStyle = .gas)
    (hop : op.Refers base index segment) (hop' : op'.Refers base' index' segment') :
    (f.memory op).text = (f.memory op').text ↔ op.segment = op'.segment ∧ op.SameRegisters op' ∧
      op.displacement ≡ op'.displacement [ZMOD 2 ^ 64] := by
  constructor
  · intro htext
    obtain ⟨htokens, hsegment, hlist, haddress⟩ := h.parts_of_text_eq hop hop' htext
    have hcomma := h.comma_mem_memory hstyle hop
    rw [htokens, h.comma_mem_memory hstyle hop'] at hcomma
    have hdisplacement := haddress 0
    rw [address_zero, address_zero] at hdisplacement
    exact ⟨by rw [hop.segment, hop'.segment, hsegment],
      sameRegisters_of_present hop hop' hlist haddress (not_iff_not.mp hcomma.symm), hdisplacement⟩
  · rintro ⟨hsegment, hregisters, hdisplacement⟩
    rw [Formatter.memory, Formatter.memory, hstyle]
    exact congrArg Emission.text (f.parenthesized_congr hsegment hregisters hdisplacement)

/-- Between brackets all parts are shown, but an index without base and factor looks like a base. -/
theorem Spelled.bracketed_text_iff (h : Spelled f) (hstyle : f.dialect.memoryStyle ≠ .gas)
    (hshown : f.options.showMemorySize) (hop : op.Refers base index segment)
    (hop' : op'.Refers base' index' segment') (hsize : op.size ∈ ([0, 1, 2, 4, 8, 16] : List Int))
    (hsize' : op'.size ∈ ([0, 1, 2, 4, 8, 16] : List Int)) :
    (f.memory op).text = (f.memory op').text ↔ op.size = op'.size ∧ op.segment = op'.segment ∧
      op.promoted.SameRegisters op'.promoted ∧ op.displacement ≡ op'.displacement [ZMOD 2 ^ 64] := by
  have hpromoted (op : Operand) : f.memory op = f.memory op.promoted := by
    rw [memory_eq_bracketed hstyle, memory_eq_bracketed hstyle, f.bracketed_promoted]
  obtain ⟨hwidth, hseg, hdisp⟩ := op.promoted_rest
  obtain ⟨hwidth', hseg', hdisp'⟩ := op'.promoted_rest
  constructor
  · intro htext
    -- of promoted operands the same text is written, and their weights tell an index from a base
    obtain ⟨b, i, hrefers, halone⟩ := hop.promoted
    obtain ⟨b', i', hrefers', halone'⟩ := hop'.promoted
    rw [hpromoted op, hpromoted op'] at htext
    obtain ⟨htokens, hsegment, hlist, haddress⟩ := h.parts_of_text_eq hrefers hrefers' htext
    have hindex : i = .none ↔ i' = .none := by
      constructor
      · exact index_absent_of_present hrefers' hrefers hlist.symm (fun regs => (haddress regs).symm) halone'
      · exact index_absent_of_present hrefers hrefers' hlist haddress halone
    have hkeyword := h.size_memory hstyle hshown hrefers
    rw [htokens, h.size_memory hstyle hshown hrefers', hwidth, hwidth'] at hkeyword
    have hsizes : ∀ m ∈ ([0, 1, 2, 4, 8, 16] : List Int), ∀ n ∈ ([0, 1, 2, 4, 8, 16] : List Int),
        Formatter.sizeKeyword? m = Formatter.sizeKeyword? n → m = n := by
      decide
    have hdisplacement := haddress 0
    rw [address_zero, address_zero, hdisp, hdisp'] at hdisplacement
    exact ⟨hsizes _ hsize _ hsize' hkeyword.symm, by rw [hop.segment, hop'.segment, hsegment],
      sameRegisters_of_present hrefers hrefers' hlist haddress hindex, hdisplacement⟩
  · rintro ⟨hsize, hsegment, hregisters, hdisplacement⟩
    rw [hpromoted op, hpromoted op']
    refine congrArg Emission.text (f.memory_congr ?_ ?_ hregisters ?_)
    · rw [hwidth, hwidth', hsize]
    · rw [hseg, hseg', hsegment]
    · rw [Formatter.unsignedDisplacement, Formatter.unsignedDisplacement, hdisp, hdisp']
      exact hdisplacement

private theorem refers_of_ofMemory {place : MemoryPlace} {access : Access} {implicit : Bool}
    (h : Operand.ofMemory place access implicit = .ok op) :
    (∃ base index segment, op.Refers base index segment) ∧ op.size ∈ ([0, 1, 2, 4, 8, 16] : List Int) := by
  obtain ⟨base, index, segment, -, -, -, hchecked, rfl⟩ := Operand.ofMemory_eq_ok.mp h
  exact ⟨⟨base, index, segment, rfl, rfl, rfl, hchecked.scale_mem⟩, hchecked.size_mem⟩

/-- The text of a memory operand identifies it. Two operands have the same text around parentheses exactly
if they have the same segment, base and index, the same scale if there is an index, and displacements that
agree modulo 2⁶⁴. Between brackets they have it exactly if also their sizes agree, where an index without
base and factor counts as a base. A negative displacement and its encoding are written alike. -/
theorem memory_text_identifies {place place' : MemoryPlace} {access access' : Access}
    {implicit implicit' : Bool} (h : Operand.ofMemory place access implicit = .ok op)
    (h' : Operand.ofMemory place' access' implicit' = .ok op') (signed : Bool) :
    (∀ d ∈ [Dialect.intel, .masm, .nasm, .gas], ((preset d signed).memory op).failure = none) ∧
    (((preset .gas signed).memory op).text = ((preset .gas signed).memory op').text ↔
      op.segment = op'.segment ∧ op.SameRegisters op' ∧
        op.displacement ≡ op'.displacement [ZMOD 2 ^ 64]) ∧
    (∀ d ∈ [Dialect.intel, .masm, .nasm],
      (((preset d signed).memory op).text = ((preset d signed).memory op').text ↔
        op.size = op'.size ∧ op.segment = op'.segment ∧ op.promoted.SameRegisters op'.promoted ∧
          op.displacement ≡ op'.displacement [ZMOD 2 ^ 64])) ∧
    ∀ n : Int, op'.displacement = 2 ^ 64 - n → op = { op' with displacement := -n } →
      ∀ d ∈ [Dialect.intel, .masm, .nasm, .gas],
        ((preset d signed).memory op).text = ((preset d signed).memory op').text := by
  obtain ⟨⟨base, index, segment, hop⟩, hsize⟩ := refers_of_ofMemory h
  obtain ⟨⟨base', index', segment', hop'⟩, hsize'⟩ := refers_of_ofMemory h'
  refine ⟨fun d hd => ?_, ?_, fun d hd => ?_, fun n hn hsame d hd => ?_⟩
  · exact ((clear_preset hd signed).faithful hop).written
  · exact (spelled_preset (by simp) signed).parenthesized_text_iff rfl hop hop'
  · have hspelled := spelled_preset (List.mem_append_left [Dialect.gas] hd) signed
    have hpreset : (preset d signed).dialect.memoryStyle ≠ .gas ∧
        (preset d signed).options.showMemorySize := by
      simp only [List.mem_cons, List.not_mem_nil, or_false] at hd
      rcases hd with rfl | rfl | rfl <;> exact ⟨nofun, rfl⟩
    exact hspelled.bracketed_text_iff hpreset.1 hpreset.2 hop hop' hsize hsize'
  · have hencoded : -n ≡ op'.displacement [ZMOD 2 ^ 64] := by
      rw [hn]
      exact Int.modEq_iff_dvd.mpr ⟨1, by ring⟩
    rw [hsame]
    exact congrArg Emission.text (Formatter.memory_congr _ rfl rfl ⟨rfl, rfl, fun _ => rfl⟩ hencoded)

/-- An index that looks like a base between brackets but not around parentheses, with a displacement and its
encoding. -/
theorem memory_text_identifies_lone_index :
    let place : MemoryPlace := { size := 4, index := .register .rax, displacement := -8 }
    let place' : MemoryPlace :=
      { size := 4, base := .register .rax, scale := 2, displacement := 2 ^ 64 - 8 }
    ∃ op op', Operand.ofMemory place = .ok op ∧ Operand.ofMemory place' = .ok op' ∧
      ((preset .nasm true).memory op).text = ((preset .nasm true).memory op').text ∧
      ((preset .gas true).memory op).text ≠ ((preset .gas true).memory op').text := by
  intro place place'
  refine ⟨_, _, rfl, rfl, ?_⟩
  obtain ⟨-, hgas, hbrackets, -⟩ :=
    @memory_text_identifies _ _ place place' .read .read false false rfl rfl true
  refine ⟨(hbrackets .nasm (by simp)).mpr ⟨rfl, rfl, ⟨rfl, rfl, nofun⟩, by decide⟩, fun htext => ?_⟩
  cases (hgas.mp htext).2.1.base

end Address
end AsmListing
