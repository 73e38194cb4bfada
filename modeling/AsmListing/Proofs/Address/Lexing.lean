import Mathlib
import AsmListing.Proofs.Address.Agreement

/-! The tokens of a memory operand are told from its text. They are words and single marks, and no two
words stand side by side, so that the text is cut into them in one way only. -/
namespace AsmListing
namespace Address

/-- The character belongs to a word: it is a letter, a digit or the mark of registers. -/
def joins (c : Char) : Bool := c.isAlphanum || c == '%'

/-- The class of a token, as far as its text tells. -/
def classOf (text : String) : TokenClass :=
  if text.toList.head?.any Char.isDigit then .number
  else if (register? ⟨.register, text⟩).isSome then .register
  else match text with
    | "+" | "-" | "*" => .operator
    | ":" | "," => .punctuation
    | "[" | "(" => .beginMemory
    | "]" | ")" => .endMemory
    | " " => .space
    | _ => .keyword

def isWord (t : Token) : Bool := t.cls = .number || t.cls = .register || t.cls = .keyword

/-- The text of the token tells its class, and is a word or a single mark according to it. -/
structure Regular (t : Token) : Prop where
  cls : t.cls = classOf t.text
  nonempty : t.text.toList ≠ []
  joins : ∀ c ∈ t.text.toList, joins c = isWord t
  single : isWord t = false → t.text.toList.length = 1

/-- Regular tokens, and no two words side by side. -/
structure Apart (ts : List Token) : Prop where
  regular : ∀ t ∈ ts, Regular t
  chain : ts.IsChain fun t u => isWord t = false ∨ isWord u = false

section
variable {ts us : List Token} {t : Token}

theorem apart_nil : Apart [] := ⟨nofun, .nil⟩

theorem Apart.cons (ht : Regular t) (hhead : ∀ u ∈ ts.head?, isWord t = false ∨ isWord u = false)
    (hts : Apart ts) : Apart (t :: ts) :=
  ⟨List.forall_mem_cons.mpr ⟨ht, hts.regular⟩, List.isChain_cons.mpr ⟨hhead, hts.chain⟩⟩

private theorem Regular.isChain (h : Regular t) :
    t.text.toList.IsChain fun a b => (Address.joins a && Address.joins b) = true := by
  cases hword : isWord t with
  | true =>
    refine (List.pairwise_of_forall_mem_list fun a ha b hb => ?_).isChain
    rw [h.joins a ha, h.joins b hb, hword]
    rfl
  | false =>
    obtain ⟨c, hc⟩ := List.length_eq_one_iff.mp (h.single hword)
    simp [hc]

/-- The text is cut wherever not both neighbours belong to a word, and the parts are the tokens. -/
theorem Apart.splitBy_textOf (h : Apart ts) :
    (Token.textOf ts).toList.splitBy (fun a b => joins a && joins b) = ts.map (·.text.toList) := by
  have hparts : (Token.textOf ts).toList = (ts.map (·.text.toList)).flatten := by
    rw [Token.textOf, String.toList_join, List.flatMap_map, List.flatMap_def]
  rw [hparts]
  apply List.splitBy_flatten
  · intro hnil
    obtain ⟨t, ht, htext⟩ := List.mem_map.mp hnil
    exact (h.regular t ht).nonempty htext
  · intro part hpart
    obtain ⟨t, ht, rfl⟩ := List.mem_map.mp hpart
    exact (h.regular t ht).isChain
  · rw [List.isChain_map]
    refine List.IsChain.imp_of_mem_imp (fun t u ht hu hmark => ?_) h.chain
    have hlast := (h.regular t ht).joins _ (List.getLast_mem (h.regular t ht).nonempty)
    have hhead := (h.regular u hu).joins _ (List.head_mem (h.regular u hu).nonempty)
    refine ⟨(h.regular t ht).nonempty, (h.regular u hu).nonempty, ?_⟩
    rw [hlast, hhead]
    exact Bool.and_eq_false_iff.mpr hmark

/-- Tokens are recovered from their texts, and the texts from what they make together. -/
theorem Apart.eq_of_textOf_eq (ht : Apart ts) (hu : Apart us) (h : Token.textOf ts = Token.textOf us) :
    ts = us := by
  have htexts : ts.map (·.text.toList) = us.map (·.text.toList) := by
    rw [← ht.splitBy_textOf, ← hu.splitBy_textOf, h]
  have hrecover {ts : List Token} (hts : Apart ts) : (ts.map (·.text.toList)).map
      (fun cs => Token.mk (classOf (String.ofList cs)) (String.ofList cs)) = ts := by
    rw [List.map_map]
    refine (List.map_congr_left fun t ht => ?_).trans (List.map_id ts)
    rw [Function.comp_apply, String.ofList_toList, ← (hts.regular t ht).cls]
    rfl
  rw [← hrecover ht, htexts, hrecover hu]

end

theorem regular_word {t : Token} (hword : isWord t) (hcls : t.cls = classOf t.text)
    (hne : t.text.toList ≠ []) (hjoins : ∀ c ∈ t.text.toList, joins c) : Regular t :=
  ⟨hcls, hne, fun c hc => (hjoins c hc).trans hword.symm, fun hmark => absurd hword (by simp [hmark])⟩

theorem regular_number {n : Nat} {text : String} (h : Numeral.Spells n text.toList) :
    Regular ⟨.number, text⟩ := by
  have hhead := h.head_isDigit
  refine regular_word rfl (if_pos hhead).symm (fun hnil => ?_) fun c hc => ?_
  · rw [show text.toList = [] from hnil] at hhead
    cases hhead
  · rw [joins, h.isAlphanum c hc, Bool.true_or]

/-- The marks and keywords of memory operands. -/
def fixedTokens : List Token :=
  [⟨.operator, "+"⟩, ⟨.operator, "-"⟩, ⟨.operator, "*"⟩, ⟨.punctuation, ":"⟩, ⟨.punctuation, ","⟩,
   ⟨.beginMemory, "["⟩, ⟨.beginMemory, "("⟩, ⟨.endMemory, "]"⟩, ⟨.endMemory, ")"⟩, ⟨.space, " "⟩,
   ⟨.keyword, "byte"⟩, ⟨.keyword, "word"⟩, ⟨.keyword, "dword"⟩, ⟨.keyword, "qword"⟩,
   ⟨.keyword, "xmmword"⟩, ⟨.keyword, "ptr"⟩]

theorem regular_fixed : ∀ t ∈ fixedTokens, Regular t := by
  have hcls : ∀ t ∈ fixedTokens, t.cls = classOf t.text := by decide +kernel
  have hjoins : ∀ t ∈ fixedTokens, (t.text.toList.all fun c => joins c == isWord t) = true := by decide
  have hlength : ∀ t ∈ fixedTokens, t.text.toList ≠ [] ∧ (isWord t = false → t.text.toList.length = 1) := by
    decide
  intro t ht
  have hall := List.all_eq_true.mp (hjoins t ht)
  exact ⟨hcls t ht, (hlength t ht).1, fun c hc => beq_iff_eq.mp (hall c hc), (hlength t ht).2⟩

/-- The formatter spells registers and keywords so that they are told from numbers and from each other. -/
structure Spelled (f : Formatter) : Prop extends Clear f where
  mark : ∃ mark, (mark = "" ∨ mark = "%") ∧ ∀ r, f.registerText r = mark ++ r.name
  keyword : ∀ word, f.cased f.options.uppercaseKeywords word = word

section
variable {f : Formatter} {op : Operand} {base index segment r : Register} {scale : Int} {t : Token}
  {ts : List Token}

theorem Spelled.regular_register (h : Spelled f) (hr : r ≠ .none) : Regular (f.registerToken r) := by
  obtain ⟨mark, hmark, htext⟩ := h.mark
  obtain ⟨halphanum, halpha⟩ := r.isAlphanum_name
  have hread : register? ⟨.register, f.registerText r⟩ = some r := h.registers r hr
  obtain ⟨c, cs, hchars, hdigit⟩ : ∃ c cs, (f.registerText r).toList = c :: cs ∧ c.isDigit = false := by
    rw [htext, String.toList_append]
    rcases hmark with rfl | rfl
    · cases hname : r.name.toList with
      | nil => simp [hname] at halpha
      | cons c cs =>
        rw [hname] at halpha halphanum
        exact ⟨c, cs, rfl, Text.forall_ascii (P := fun c => c.isAlpha → c.isDigit = false) (by decide)
          (Text.toNat_lt_of_isAlphanum (halphanum c List.mem_cons_self)) halpha⟩
    · exact ⟨'%', r.name.toList, rfl, rfl⟩
  have hcls : classOf (f.registerText r) = .register := by
    have hnumber : ¬(f.registerText r).toList.head?.any Char.isDigit := by simp [hchars, hdigit]
    have hsome : (register? ⟨.register, f.registerText r⟩).isSome := by rw [hread, Option.isSome_some]
    exact (if_neg hnumber).trans (if_pos hsome)
  have hjoins : ∀ c ∈ (f.registerText r).toList, joins c := by
    intro c hc
    rw [htext, String.toList_append, List.mem_append] at hc
    rcases hc with hc | hc
    · rcases hmark with rfl | rfl
      · cases hc
      · rw [List.mem_singleton.mp hc]
        rfl
    · rw [joins, halphanum c hc, Bool.true_or]
  exact regular_word rfl hcls.symm (hchars ▸ List.cons_ne_nil c cs) hjoins

theorem Spelled.regular_displacement (h : Spelled f) (op : Operand) : Regular (f.displacementToken op) :=
  regular_number (h.legible.spells 64 (f.shownDisplacement op))

theorem regular_scale (h : scale ∈ ([1, 2, 4, 8] : List Int)) : Regular (Formatter.scaleToken scale) :=
  regular_number (Numeral.spells_toString (Int.le_of_lt (Operand.one_le_of_mem h)))

/-- A mark can stand before anything. -/
private theorem Apart.mark (hts : Apart ts) (ht : t ∈ fixedTokens) (hmark : isWord t = false) :
    Apart (t :: ts) :=
  .cons (regular_fixed t ht) (fun _ _ => .inl hmark) hts

/-- A word stands before a mark or at the end. -/
private theorem Apart.word (hts : Apart ts) (ht : Regular t) (hmark : ∀ u ∈ ts.head?, isWord u = false) :
    Apart (t :: ts) :=
  .cons ht (fun u hu => .inr (hmark u hu)) hts

private theorem Apart.word_mark (hts : Apart ts) (ht : Regular t) {u : Token} (hu : u ∈ fixedTokens)
    (hmark : isWord u = false) : Apart (t :: u :: ts) :=
  (hts.mark hu hmark).word ht (by simpa using hmark)

/-- The words for a size end with a space, behind which anything can stand. -/
theorem Spelled.apart_sizeTokens (h : Spelled f) (size : Int) (hts : Apart ts) :
    Apart (f.sizeTokens size ++ ts) := by
  have hwords {word : String} (hword : ⟨.keyword, word⟩ ∈ fixedTokens) {us : List Token} (hus : Apart us) :
      Apart (f.keywordTokens word ++ us) := by
    rw [Formatter.keywordTokens, h.keyword]
    exact hus.word_mark (regular_fixed _ hword) (by decide) rfl
  unfold Formatter.sizeTokens
  split
  · next word hword =>
    have hmem : ⟨.keyword, word⟩ ∈ fixedTokens := by
      unfold Formatter.sizeKeyword? at hword
      split at hword <;> cases hword <;> decide
    split
    · split
      · rw [List.append_assoc]
        exact hwords hmem (hwords (by decide) hts)
      · rw [List.append_nil]
        exact hwords hmem hts
    · exact hts
  · exact hts

theorem Spelled.apart_segmentTokens (h : Spelled f) (segment : Register) (hts : Apart ts) :
    Apart (f.segmentTokens segment ++ ts) := by
  by_cases hs : segment = .none
  · simpa [Formatter.segmentTokens, hs] using hts
  · simpa [Formatter.segmentTokens, hs] using hts.word_mark (h.regular_register hs) (by decide) rfl

/-- Behind the registers of a sum there stands a mark. -/
theorem Spelled.apart_sumTokens (h : Spelled f) (hscale : scale ∈ ([1, 2, 4, 8] : List Int))
    (hts : Apart ts) (hmark : ∀ t ∈ ts.head?, isWord t = false) :
    Apart (f.sumTokens base index scale ++ ts) := by
  have hindex (hi : index ≠ .none) : Apart (f.registerToken index ::
      ((if scale = 1 then [] else [⟨.operator, "*"⟩, Formatter.scaleToken scale]) ++ ts)) := by
    split
    · exact hts.word (h.regular_register hi) hmark
    · exact (hts.word (regular_scale hscale) hmark).word_mark (h.regular_register hi) (by decide) rfl
  by_cases hb : base = .none <;> by_cases hi : index = .none
  · simpa [Formatter.sumTokens, hb, hi] using hts
  · simpa [Formatter.sumTokens, hb, hi] using hindex hi
  · simpa [Formatter.sumTokens, hb, hi] using hts.word (h.regular_register hb) hmark
  · simpa [Formatter.sumTokens, hb, hi] using
      (hindex hi).word_mark (h.regular_register hb) (u := ⟨.operator, "+"⟩) (by decide) rfl

/-- Without registers the displacement stands alone, and else it has a sign before it. -/
theorem Spelled.apart_bracketed (h : Spelled f) (hbase : op.base = base) (hindex : op.index = index)
    (hscale : op.scale ∈ ([1, 2, 4, 8] : List Int)) :
    Apart (f.sumTokens base index op.scale ++ f.displacementTokens op ++ [⟨.endMemory, "]"⟩]) := by
  have hclose : Apart [⟨.endMemory, "]"⟩] := apart_nil.mark (by decide) rfl
  have hnumber := hclose.word (h.regular_displacement op) (by simp [isWord])
  have hsign : (⟨.operator, if f.showsMinus op then "-" else "+"⟩ : Token) ∈ fixedTokens := by
    split <;> decide
  rw [Formatter.displacementTokens, Formatter.hasRegisters_eq hbase hindex, List.append_assoc]
  by_cases hsome : base ≠ .none ∨ index ≠ .none
  · simp only [hsome, decide_true, Bool.not_true, Bool.false_eq_true, if_false]
    split
    · exact h.apart_sumTokens hscale hclose (by simp [isWord])
    · exact h.apart_sumTokens hscale (hnumber.mark hsign rfl) (by simp [isWord])
  · obtain ⟨hb, hi⟩ : base = .none ∧ index = .none := by simpa using hsome
    simpa [Formatter.sumTokens, hb, hi] using hnumber

theorem Spelled.apart_listTokens (h : Spelled f) (hscale : scale ∈ ([1, 2, 4, 8] : List Int)) :
    Apart (f.listTokens base index scale ++ [⟨.endMemory, ")"⟩]) := by
  have hclose : Apart [⟨.endMemory, ")"⟩] := apart_nil.mark (by decide) rfl
  have hindex (hi : index ≠ .none) : Apart (f.registerToken index :: ((if scale = 1 then [] else
      [⟨.punctuation, ","⟩, Formatter.scaleToken scale]) ++ [⟨.endMemory, ")"⟩])) := by
    split
    · exact hclose.word (h.regular_register hi) (by simp [isWord])
    · exact (hclose.word (regular_scale hscale) (by simp [isWord])).word_mark (h.regular_register hi)
        (by decide) rfl
  by_cases hb : base = .none <;> by_cases hi : index = .none
  · simpa [Formatter.listTokens, hb, hi] using hclose
  · simpa [Formatter.listTokens, hb, hi] using (hindex hi).mark (t := ⟨.punctuation, ","⟩) (by decide) rfl
  · simpa [Formatter.listTokens, hb, hi] using hclose.word (h.regular_register hb) (by simp [isWord])
  · simpa [Formatter.listTokens, hb, hi] using
      (hindex hi).word_mark (h.regular_register hb) (u := ⟨.punctuation, ","⟩) (by decide) rfl

theorem Spelled.apart_parenthesized (h : Spelled f) (hscale : op.scale ∈ ([1, 2, 4, 8] : List Int)) :
    Apart (f.frontTokens op ++ if Formatter.hasRegisters op then
      ⟨.beginMemory, "("⟩ :: (f.listTokens base index op.scale ++ [⟨.endMemory, ")"⟩]) else []) := by
  have hlist : Apart (if Formatter.hasRegisters op then
      ⟨.beginMemory, "("⟩ :: (f.listTokens base index op.scale ++ [⟨.endMemory, ")"⟩]) else []) := by
    split
    · exact (h.apart_listTokens hscale).mark (by decide) rfl
    · exact apart_nil
  have hnumber := hlist.word (h.regular_displacement op) (by split <;> simp [isWord])
  rw [Formatter.frontTokens]
  split
  · split
    · exact hnumber.mark (t := ⟨.operator, "-"⟩) (by decide) rfl
    · exact hnumber
  · exact hlist

/-- The tokens of a memory operand are apart in each of the three styles. -/
theorem Spelled.apart_memory (h : Spelled f) (hbase : op.base = base) (hindex : op.index = index)
    (hsegment : op.segment = segment) (hscale : op.scale ∈ ([1, 2, 4, 8] : List Int)) :
    Apart (f.memory op).tokens := by
  rw [Formatter.memory]
  split
  · rw [Formatter.parenthesized_eq_ofTokens h.valid hbase hindex hsegment]
    exact h.apart_segmentTokens segment (h.apart_parenthesized hscale)
  · have hsum := h.apart_bracketed hbase hindex hscale
    have hopen {us : List Token} (hus : Apart us) : Apart (⟨.beginMemory, "["⟩ :: us) :=
      hus.mark (by decide) rfl
    rw [Formatter.bracketed_eq_ofTokens h.valid h.tight hbase hindex hsegment, Emission.tokens_ofTokens,
      List.append_assoc]
    apply h.apart_sizeTokens
    split
    · rw [List.append_assoc]
      exact hopen (h.apart_segmentTokens segment hsum)
    · exact h.apart_segmentTokens segment (hopen hsum)

end

theorem spelled_preset {d : Dialect} (hd : d ∈ [Dialect.intel, .masm, .nasm, .gas]) (signed : Bool) :
    Spelled (preset d signed) := by
  have hclear := clear_preset hd signed
  simp only [List.mem_cons, List.not_mem_nil, or_false] at hd
  rcases hd with rfl | rfl | rfl | rfl
  · exact ⟨hclear, ⟨"", .inl rfl, fun _ => rfl⟩, fun _ => rfl⟩
  · exact ⟨hclear, ⟨"", .inl rfl, fun _ => rfl⟩, fun _ => rfl⟩
  · exact ⟨hclear, ⟨"", .inl rfl, fun _ => rfl⟩, fun _ => rfl⟩
  · exact ⟨hclear, ⟨"%", .inr rfl, fun _ => rfl⟩, fun _ => rfl⟩

end Address
end AsmListing
