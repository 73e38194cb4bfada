import Mathlib
import AsmListing.Proofs.Address.Expression
import AsmListing.Proofs.Formatter.MemoryTokens
import AsmListing.Proofs.Reader.Spelling

/-! The values of what is written between brackets and around parentheses. -/
namespace AsmListing
namespace Address
open Operand (content content_register)

/-- The tokens of the formatter for registers and displacements can be read back. -/
structure Clear (f : Formatter) : Prop where
  valid : f.Valid
  tight : f.Tight
  legible : (NumberOptions.drawn .displacement f.options).Legible
  registers : ∀ r ≠ .none, register? (f.registerToken r) = some r

section
variable {f : Formatter} (regs : Register → Int) {op : Operand} {base index segment : Register}
  {scale : Int}

theorem Clear.value?_register (h : Clear f) {r : Register} (hr : r ≠ .none) :
    value? regs (f.registerToken r) = some (regs r) := by
  have hclass : (f.registerToken r).cls ≠ .number := by
    simp [Formatter.registerToken]
  rw [value?, if_neg hclass, h.registers r hr, Option.map_some]

theorem Clear.value?_displacement (h : Clear f) (op : Operand) :
    value? regs (f.displacementToken op) = some (f.shownDisplacement op : Int) := by
  have hread := h.legible.readNumber_render (f.shownDisplacement_lt op) 64
  simp only [value?, Formatter.displacementToken, if_true, hread]
  rfl

theorem value?_scale (h : scale ∈ ([1, 2, 4, 8] : List Int)) :
    value? regs (Formatter.scaleToken scale) = some scale := by
  have hread : ∀ n ∈ ([1, 2, 4, 8] : List Int), (readNumber (toString n)).toOption = some n := by
    decide
  exact hread scale h

/-- The registers of a sum have been added up when what follows them is read. -/
theorem Clear.sum?_registers (h : Clear f) (hscale : scale ∈ ([1, 2, 4, 8] : List Int))
    (hsome : base ≠ .none ∨ index ≠ .none) :
    ∃ total product,
      total + product = content regs base + content regs index * scale ∧
      ∀ rest, sum? (value? regs) (f.sumTokens base index scale ++ rest) =
        sumFrom? (value? regs) total product rest := by
  by_cases hi : index = .none
  · have hb : base ≠ .none := hsome.resolve_right fun hne => hne hi
    refine ⟨0, regs base, by simp [content_register, hb, hi], fun rest => ?_⟩
    simp [Formatter.sumTokens, hb, hi, sum?, h.value?_register regs hb]
  have hindex := h.value?_register regs hi
  by_cases hb : base = .none
  · by_cases hs : scale = 1
    · refine ⟨0, regs index, by simp [content_register, hb, hi, hs], fun rest => ?_⟩
      simp [Formatter.sumTokens, hb, hi, hs, sum?, hindex]
    · refine ⟨0, regs index * scale, by simp [content_register, hb, hi], fun rest => ?_⟩
      simp [Formatter.sumTokens, hb, hi, hs, sum?, sumFrom?, hindex, value?_scale, hscale]
  · have hbase := h.value?_register regs hb
    by_cases hs : scale = 1
    · refine ⟨regs base, regs index, by simp [content_register, hb, hi, hs], fun rest => ?_⟩
      simp [Formatter.sumTokens, hb, hi, hs, sum?, sumFrom?, hbase, hindex]
    · refine ⟨regs base, regs index * scale, by simp [content_register, hb, hi], fun rest => ?_⟩
      simp [Formatter.sumTokens, hb, hi, hs, sum?, sumFrom?, hbase, hindex, value?_scale, hscale]

/-- The number in the text and the sign before it stand for the displacement. -/
theorem shownDisplacement_modEq (f : Formatter) (op : Operand) :
    (if f.showsMinus op then -(f.shownDisplacement op : Int) else f.shownDisplacement op) ≡
      op.displacement [ZMOD 2 ^ 64] := by
  have hbounds := Formatter.unsignedDisplacement_bounds op
  rw [Formatter.shownDisplacement]
  split
  · next hminus =>
    have hneg : Formatter.signedDisplacement op < 0 := by
      simp only [Formatter.showsMinus, Bool.and_eq_true, decide_eq_true_eq] at hminus
      exact hminus.1.2
    rw [Int.toNat_of_nonneg (by omega), neg_neg]
    exact Formatter.signedDisplacement_modEq op
  · rw [Int.toNat_of_nonneg hbounds.1]
    exact Formatter.unsignedDisplacement_modEq op

/-- The sum in brackets has the value of the address. -/
theorem Clear.sum?_tokens (h : Clear f) (hbase : op.base = base) (hindex : op.index = index)
    (hscale : op.scale ∈ ([1, 2, 4, 8] : List Int)) :
    ∃ n, sum? (value? regs) (f.sumTokens base index op.scale ++ f.displacementTokens op) = some n ∧
      n ≡ op.address regs [ZMOD 2 ^ 64] := by
  have hshown := shownDisplacement_modEq f op
  have hnumber := h.value?_displacement regs op
  have hregisters := Formatter.hasRegisters_eq hbase hindex
  rw [Operand.address, hbase, hindex]
  by_cases hsome : base ≠ .none ∨ index ≠ .none
  · obtain ⟨total, product, hvalue, hsum⟩ := h.sum?_registers regs hscale hsome
    rw [hsum, Formatter.displacementTokens, hregisters, ← hvalue]
    simp only [hsome, decide_true, Bool.not_true, Bool.false_eq_true, if_false]
    split
    · next hzero =>
      refine ⟨_, rfl, ?_⟩
      simpa [hzero] using (Formatter.signedDisplacement_modEq op).add_left (total + product)
    · refine ⟨_, ?_, hshown.add_left _⟩
      cases f.showsMinus op <;> simp [sumFrom?, hnumber]
  · have hminus : f.showsMinus op = false := by
      simp [Formatter.showsMinus, hregisters, hsome]
    obtain ⟨hb, hi⟩ : base = .none ∧ index = .none := by simpa using hsome
    rw [hminus] at hshown
    refine ⟨f.shownDisplacement op, ?_, ?_⟩
    · simp [Formatter.sumTokens, Formatter.displacementTokens, hregisters, hb, hi, sum?, sumFrom?,
        hnumber]
    · simpa [hb, hi] using hshown

theorem Clear.displacement?_front (h : Clear f) (op : Operand) :
    ∃ n, displacement? (value? regs) (f.frontTokens op) = some n ∧
      n ≡ op.displacement [ZMOD 2 ^ 64] := by
  have hshown := shownDisplacement_modEq f op
  have hnumber := h.value?_displacement regs op
  rw [Formatter.frontTokens]
  split
  · refine ⟨_, ?_, hshown⟩
    cases f.showsMinus op <;> simp [displacement?, hnumber]
  · next hnone =>
    have hzero : Formatter.signedDisplacement op = 0 := by
      by_contra hne
      exact hnone (by simp [hne])
    exact ⟨0, rfl, hzero ▸ Formatter.signedDisplacement_modEq op⟩

theorem Clear.listed?_tokens (h : Clear f) (hscale : scale ∈ ([1, 2, 4, 8] : List Int))
    (hsome : base ≠ .none ∨ index ≠ .none) :
    listed? (value? regs) (f.listTokens base index scale) =
      some (content regs base + content regs index * scale) := by
  have hregister {r : Register} : f.registerToken r ≠ ⟨.punctuation, ","⟩ := by
    simp [Formatter.registerToken]
  have hfactor : Formatter.scaleToken scale ≠ ⟨.punctuation, ","⟩ := by
    simp [Formatter.scaleToken]
  by_cases hi : index = .none
  · have hb : base ≠ .none := hsome.resolve_right fun hne => hne hi
    simp [listed?, Formatter.listTokens, hb, hi, hregister, List.splitOnP_cons_eq_if_modifyHead,
      h.value?_register regs hb, content_register]
  have hindex := h.value?_register regs hi
  by_cases hb : base = .none <;> by_cases hs : scale = 1
  · simp [listed?, Formatter.listTokens, List.splitOnP_cons_eq_if_modifyHead, hb, hi, hs, hregister,
      hindex, content_register]
  · simp [listed?, Formatter.listTokens, List.splitOnP_cons_eq_if_modifyHead, hb, hi, hs, hregister,
      hfactor, hindex, value?_scale, hscale, content_register]
  · simp [listed?, Formatter.listTokens, List.splitOnP_cons_eq_if_modifyHead, hb, hi, hs, hregister,
      hindex, h.value?_register regs hb, content_register]
  · simp [listed?, Formatter.listTokens, List.splitOnP_cons_eq_if_modifyHead, hb, hi, hs, hregister,
      hfactor, hindex, h.value?_register regs hb, value?_scale, hscale, content_register]

/-- No token before the parentheses opens them. -/
theorem frontTokens_cls (f : Formatter) (op : Operand) :
    ∀ t ∈ f.frontTokens op, t.cls = .operator ∨ t.cls = .number := by
  intro t ht
  rw [Formatter.frontTokens] at ht
  split at ht
  · rcases List.mem_append.mp ht with ht | ht
    · split at ht
      · exact .inl (by rw [List.mem_singleton.mp ht])
      · cases ht
    · exact .inr (by rw [List.mem_singleton.mp ht, Formatter.displacementToken])
  · cases ht

/-- Displacement, base, index and scale around parentheses have the value of the address. -/
theorem Clear.parenthesized?_tokens (h : Clear f) (hbase : op.base = base) (hindex : op.index = index)
    (hscale : op.scale ∈ ([1, 2, 4, 8] : List Int)) :
    ∃ n, parenthesized? (value? regs) (f.frontTokens op ++ if Formatter.hasRegisters op then
        ⟨.beginMemory, "("⟩ :: (f.listTokens base index op.scale ++ [⟨.endMemory, ")"⟩])
      else []) = some n ∧ n ≡ op.address regs [ZMOD 2 ^ 64] := by
  obtain ⟨n, hn, hmod⟩ := h.displacement?_front regs op
  have hfront : ∀ t ∈ f.frontTokens op, decide (t.cls ≠ .beginMemory) = true := by
    intro t ht
    rcases frontTokens_cls f op t ht with hcls | hcls <;> simp [hcls]
  have hregisters := Formatter.hasRegisters_eq hbase hindex
  rw [Operand.address, hbase, hindex]
  by_cases hsome : base ≠ .none ∨ index ≠ .none
  · refine ⟨n + (content regs base + content regs index * op.scale), ?_, ?_⟩
    · rw [hregisters, parenthesized?, List.takeWhile_append_of_pos hfront,
        List.dropWhile_append_of_pos hfront]
      simp [hsome, enclosed?, hn, h.listed?_tokens regs hscale hsome]
    · rw [add_comm]
      exact hmod.add_left _
  · obtain ⟨hb, hi⟩ : base = .none ∧ index = .none := by simpa using hsome
    refine ⟨n, ?_, by simpa [hb, hi] using hmod⟩
    have hne : f.frontTokens op ≠ [] := by
      simp [Formatter.frontTokens, hregisters, hsome]
    rw [hregisters, parenthesized?, List.takeWhile_append_of_pos hfront,
      List.dropWhile_append_of_pos hfront]
    simp [hsome, hne, hn]

end
end Address
end AsmListing
