import Mathlib
import AsmListing.Proofs.Address.Value
import AsmListing.Proofs.Operand.Construction

/-! The address that a written memory operand stands for is the operand's own address, in every
dialect. -/
namespace AsmListing
namespace Address

section
variable {f : Formatter} {op : Operand} {base index segment : Register}

theorem splitSegment_segmentTokens (f : Formatter) (segment : Register) {ts : List Token}
    (h : splitSegment ts = (none, ts)) : splitSegment (f.segmentTokens segment ++ ts) =
      (if segment = .none then none else some (f.registerToken segment), ts) := by
  by_cases hs : segment = .none
  · simpa [Formatter.segmentTokens, hs] using h
  · simp [Formatter.segmentTokens, hs, splitSegment]

theorem sumTokens_cls (f : Formatter) (base index : Register) (scale : Int) (op : Operand) :
    ∀ t ∈ f.sumTokens base index scale ++ f.displacementTokens op,
      t.cls = .register ∨ t.cls = .operator ∨ t.cls = .number := by
  have hsum : ∀ t ∈ f.sumTokens base index scale,
      t.cls = .register ∨ t.cls = .operator ∨ t.cls = .number := by
    by_cases hb : base = .none <;> by_cases hi : index = .none <;> by_cases hs : scale = 1 <;>
      simp [Formatter.sumTokens, hb, hi, hs, Formatter.registerToken, Formatter.scaleToken]
  have hdisplacement : ∀ t ∈ f.displacementTokens op, t.cls = .operator ∨ t.cls = .number := by
    unfold Formatter.displacementTokens
    split
    · simp [Formatter.displacementToken]
    · split <;> simp [Formatter.displacementToken]
  intro t ht
  exact (List.mem_append.mp ht).elim (hsum t) fun ht => .inr (hdisplacement t ht)

theorem sizeTokens_cls (f : Formatter) (size : Int) :
    ∀ t ∈ f.sizeTokens size, t.cls = .keyword ∨ t.cls = .space := by
  unfold Formatter.sizeTokens
  split
  · split
    · split <;> simp [Formatter.keywordTokens]
    · simp
  · simp

/-- The segment is found on either side of the bracket. -/
theorem bracketed?_tokens (f : Formatter) (segment : Register) {ks ts : List Token}
    (hks : ∀ t ∈ ks, t.cls = .keyword ∨ t.cls = .space)
    (hts : ∀ t ∈ ts, t.cls = .register ∨ t.cls = .operator ∨ t.cls = .number) (inner : Prop)
    [Decidable inner] :
    bracketed? (ks ++ (if inner then [] else f.segmentTokens segment) ++ ⟨.beginMemory, "["⟩ ::
      ((if inner then f.segmentTokens segment else []) ++ ts ++ [⟨.endMemory, "]"⟩])) =
      some (if segment = .none then none else some (f.registerToken segment), ts) := by
  have hsegment : ∀ t ∈ f.segmentTokens segment, t.cls ≠ .keyword ∧ t.cls ≠ .space := by
    unfold Formatter.segmentTokens
    split <;> simp [Formatter.registerToken]
  have hsum : ∀ t ∈ ts, t.cls ≠ .keyword ∧ t.cls ≠ .space := by
    intro t ht
    rcases hts t ht with h | h | h <;> simp [h]
  have hcolon : ⟨.punctuation, ":"⟩ ∉ ts := colon_not_mem fun t ht => by
    rcases hts t ht with h | h | h <;> simp [h]
  have hplain := splitSegment_of_not_mem hcolon
  have hopen : splitSegment (⟨.beginMemory, "["⟩ :: (ts ++ [⟨.endMemory, "]"⟩])) =
      (none, ⟨.beginMemory, "["⟩ :: (ts ++ [⟨.endMemory, "]"⟩])) :=
    splitSegment_of_not_mem (by simp [hcolon])
  rw [bracketed?, List.append_assoc]
  by_cases hinner : inner
  · have hinside : splitSegment (⟨.beginMemory, "["⟩ ::
        (f.segmentTokens segment ++ ts ++ [⟨.endMemory, "]"⟩])) = (none, ⟨.beginMemory, "["⟩ ::
        (f.segmentTokens segment ++ ts ++ [⟨.endMemory, "]"⟩])) := by
      by_cases hs : segment = .none
      · simpa [Formatter.segmentTokens, hs] using hopen
      · simp [Formatter.segmentTokens, hs, splitSegment, Formatter.registerToken]
    simp only [hinner, if_true, List.nil_append]
    rw [filter_words hks, hinside, enclosed?_append, Option.map_some,
      splitSegment_segmentTokens f segment hplain]
    · simp
    · simp only [List.forall_mem_cons, List.forall_mem_append]
      exact ⟨by simp, ⟨hsegment, hsum⟩, by simp, by simp⟩
  · simp only [hinner, if_false, List.nil_append]
    rw [filter_words hks, splitSegment_segmentTokens f segment hopen, enclosed?_append,
      Option.map_some, hplain]
    · simp
    · simp only [List.forall_mem_cons, List.forall_mem_append]
      exact ⟨hsegment, by simp, hsum, by simp, by simp⟩

private theorem colon_mem_segmentTokens (f : Formatter) (segment : Register) :
    ⟨.punctuation, ":"⟩ ∈ f.segmentTokens segment ↔ segment ≠ .none := by
  by_cases hs : segment = .none <;> simp [Formatter.segmentTokens, hs, Formatter.registerToken]

private theorem colon_not_mem_listTokens (f : Formatter) (base index : Register) (scale : Int) :
    ⟨.punctuation, ":"⟩ ∉ f.listTokens base index scale := by
  by_cases hb : base = .none <;> by_cases hi : index = .none <;> by_cases hs : scale = 1 <;>
    simp [Formatter.listTokens, hb, hi, hs, Formatter.registerToken, Formatter.scaleToken]

/-- The written memory operand is read as its address, and its segment is read where it has one, which
is where it has a colon. -/
structure Faithful (f : Formatter) (op : Operand) : Prop where
  written : (f.memory op).failure = none
  address : ∀ regs, ∃ n, read? f.dialect.memoryStyle regs (f.memory op).tokens = some n ∧
    n ≡ op.address regs [ZMOD 2 ^ 64]
  segment : segment? f.dialect.memoryStyle (f.memory op).tokens =
    if op.segment.isAbsent then none else op.segment.register?
  colon : ⟨.punctuation, ":"⟩ ∈ (f.memory op).tokens ↔ op.segment.isAbsent = false

private theorem Clear.register?_segment (h : Clear f) (segment : Register) :
    (if segment = .none then none else some (f.registerToken segment)).bind register? =
      if RegisterValue.isAbsent segment then none else RegisterValue.register? segment := by
  rw [RegisterValue.isAbsent_register]
  by_cases hs : segment = .none
  · simp [hs]
  · simp [hs, h.registers segment hs, RegisterValue.register?]

theorem Clear.faithful_parenthesized (h : Clear f) (hstyle : f.dialect.memoryStyle = .gas)
    (hbase : op.base = base) (hindex : op.index = index) (hsegment : op.segment = segment)
    (hscale : op.scale ∈ ([1, 2, 4, 8] : List Int)) : Faithful f op := by
  have hmemory : f.memory op = f.parenthesized op := by rw [Formatter.memory, hstyle]
  rw [Formatter.parenthesized_eq_ofTokens h.valid hbase hindex hsegment] at hmemory
  have hfront : ⟨.punctuation, ":"⟩ ∉ f.frontTokens op := colon_not_mem fun t ht => by
    rcases frontTokens_cls f op t ht with hcls | hcls <;> simp [hcls]
  have hlist := colon_not_mem_listTokens f base index op.scale
  have hcolon : ⟨.punctuation, ":"⟩ ∉ f.frontTokens op ++ if Formatter.hasRegisters op then
      ⟨.beginMemory, "("⟩ :: (f.listTokens base index op.scale ++ [⟨.endMemory, ")"⟩]) else [] := by
    cases Formatter.hasRegisters op <;> simp [hfront, hlist]
  have hsplit := splitSegment_segmentTokens f segment (splitSegment_of_not_mem hcolon)
  refine ⟨by rw [hmemory]; rfl, fun regs => ?_, ?_, ?_⟩
  · rw [hmemory, hstyle, read?, Emission.tokens_ofTokens, hsplit]
    exact h.parenthesized?_tokens regs hbase hindex hscale
  · rw [hmemory, hstyle, segment?, Emission.tokens_ofTokens, hsplit, hsegment]
    exact h.register?_segment segment
  · rw [hmemory, Emission.tokens_ofTokens, List.mem_append, or_iff_left hcolon,
      colon_mem_segmentTokens, hsegment, RegisterValue.isAbsent_register]
    simp

theorem Clear.faithful_bracketed (h : Clear f) (hstyle : f.dialect.memoryStyle ≠ .gas)
    (hbase : op.base = base) (hindex : op.index = index) (hsegment : op.segment = segment)
    (hscale : op.scale ∈ ([1, 2, 4, 8] : List Int)) : Faithful f op := by
  have hmemory : f.memory op = f.bracketed op := by
    rw [Formatter.memory]
    split
    · next hgas => exact absurd hgas hstyle
    · rfl
  rw [Formatter.bracketed_eq_ofTokens h.valid h.tight hbase hindex hsegment] at hmemory
  have hparts := bracketed?_tokens f segment (sizeTokens_cls f op.size)
    (sumTokens_cls f base index op.scale op) (f.dialect.memoryStyle = .nasm)
  rw [← Emission.tokens_ofTokens (_ ++ _ ++ _ :: _), ← hmemory] at hparts
  refine ⟨by rw [hmemory]; rfl, fun regs => ?_, ?_, ?_⟩
  · have hread : read? f.dialect.memoryStyle regs (f.memory op).tokens =
        (bracketed? (f.memory op).tokens).bind fun parts => sum? (value? regs) parts.2 := by
      unfold read?
      split
      · next hgas => exact absurd hgas hstyle
      · rfl
    rw [hread, hparts]
    exact h.sum?_tokens regs hbase hindex hscale
  · have hread : segment? f.dialect.memoryStyle (f.memory op).tokens =
        ((bracketed? (f.memory op).tokens).bind Prod.fst).bind register? := by
      unfold segment?
      split
      · next hgas => exact absurd hgas hstyle
      · rfl
    rw [hread, hparts, hsegment]
    exact h.register?_segment segment
  · have hsize : ⟨.punctuation, ":"⟩ ∉ f.sizeTokens op.size := colon_not_mem fun t ht => by
      rcases sizeTokens_cls f op.size t ht with hcls | hcls <;> simp [hcls]
    have hsum : ⟨.punctuation, ":"⟩ ∉ f.sumTokens base index op.scale ++ f.displacementTokens op :=
      colon_not_mem fun t ht => by
        rcases sumTokens_cls f base index op.scale op t ht with hcls | hcls | hcls <;> simp [hcls]
    have hmem := colon_mem_segmentTokens f segment
    rw [hmemory, Emission.tokens_ofTokens, hsegment, RegisterValue.isAbsent_register]
    by_cases hinner : f.dialect.memoryStyle = .nasm
    · simp [hinner, hsize, hmem, List.mem_append.not.mp hsum]
    · simp [hinner, hsize, hmem, List.mem_append.not.mp hsum]

end

private theorem register?_mark {mark : String} (hmark : mark = "" ∨ mark = "%") (r : Register) :
    register? ⟨.register, mark ++ r.name⟩ = some r := by
  have hplain : ∀ r ∈ Register.all, r.name.toList.dropWhile (· == '%') = r.name.toList := by
    decide +kernel
  have hname := hplain r (Register.mem_all r)
  rcases hmark with rfl | rfl <;> simp [register?, hname, readRegister_name, Except.toOption]

/-- The dialect with its own options, but for the signs of displacements. -/
def preset (d : Dialect) (signed : Bool) : Formatter :=
  ⟨d, { d.defaults with signedDisplacements := signed }⟩

/-- Three dialects mark no registers and have the same options. -/
private theorem clear_unmarked {d : Dialect} (hmark : d.registerPrefix = "") (hdefaults : d.defaults = .intel)
    (signed : Bool) : Clear (preset d signed) := by
  have hpreset : preset d signed = ⟨d, { FormatOptions.intel with signedDisplacements := signed }⟩ := by
    rw [preset, hdefaults]
  rw [hpreset]
  refine ⟨rfl, ⟨rfl, rfl, rfl⟩, ⟨rfl, rfl, rfl, .inr ⟨rfl, rfl, rfl⟩⟩, fun r _ => ?_⟩
  exact register?_mark (.inl hmark) r

theorem clear_preset {d : Dialect} (hd : d ∈ [Dialect.intel, .masm, .nasm, .gas]) (signed : Bool) :
    Clear (preset d signed) := by
  simp only [List.mem_cons, List.not_mem_nil, or_false] at hd
  rcases hd with rfl | rfl | rfl | rfl
  · exact clear_unmarked rfl rfl signed
  · exact clear_unmarked rfl rfl signed
  · exact clear_unmarked rfl rfl signed
  · exact ⟨rfl, ⟨rfl, rfl, rfl⟩, ⟨rfl, rfl, rfl, .inl ⟨rfl, rfl⟩⟩,
      fun r _ => register?_mark (.inr rfl) r⟩

/-- In every dialect a memory operand is written so that its address and its segment are read from its
tokens. Hence the dialects agree on the address. -/
theorem memory_address_agrees {place : MemoryPlace} {access : Access} {implicit : Bool} {op : Operand}
    (h : Operand.ofMemory place access implicit = .ok op) :
    (∀ d ∈ [Dialect.intel, .masm, .nasm, .gas], ∀ signed, Faithful (preset d signed) op) ∧
    ∀ d ∈ [Dialect.intel, .masm, .nasm, .gas], ∀ d' ∈ [Dialect.intel, .masm, .nasm, .gas],
      ∀ (signed signed' : Bool) (regs : Register → Int), ∃ n n',
        read? d.memoryStyle regs ((preset d signed).memory op).tokens = some n ∧
        read? d'.memoryStyle regs ((preset d' signed').memory op).tokens = some n' ∧
        n ≡ n' [ZMOD 2 ^ 64] := by
  have hfaithful : ∀ d ∈ [Dialect.intel, .masm, .nasm, .gas], ∀ signed,
      Faithful (preset d signed) op := by
    obtain ⟨base, index, segment, -, -, -, hchecked, rfl⟩ := Operand.ofMemory_eq_ok.mp h
    intro d hd signed
    have hclear := clear_preset hd signed
    by_cases hstyle : d.memoryStyle = .gas
    · exact hclear.faithful_parenthesized hstyle rfl rfl rfl hchecked.scale_mem
    · exact hclear.faithful_bracketed hstyle rfl rfl rfl hchecked.scale_mem
  refine ⟨hfaithful, fun d hd d' hd' signed signed' regs => ?_⟩
  obtain ⟨n, hn, hmod⟩ := (hfaithful d hd signed).address regs
  obtain ⟨n', hn', hmod'⟩ := (hfaithful d' hd' signed').address regs
  exact ⟨n, n', hn, hn', hmod.trans hmod'.symm⟩

/-- The lowest displacement, which has no positive counterpart in 64 bits, with all the other parts. -/
theorem memory_address_agrees_lowest :
    let place : MemoryPlace :=
      { size := 16, base := .register .rsp, index := .register .r13, scale := 8,
        displacement := -9223372036854775808, segment := .register .fs }
    ∃ op, Operand.ofMemory place = .ok op ∧ Faithful (preset .gas true) op ∧
      Faithful (preset .nasm false) op := by
  intro place
  refine ⟨_, rfl, ?_, ?_⟩
  · exact (@memory_address_agrees place .read false _ rfl).1 .gas (by simp) true
  · exact (@memory_address_agrees place .read false _ rfl).1 .nasm (by simp) false

end Address
end AsmListing
