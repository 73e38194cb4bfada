import Mathlib
import AsmListing.Proofs.Layout.Arrangement
import AsmListing.Proofs.Reader.Spelling
import AsmListing.Proofs.Text.SmallLetters

/-! Options for letter case and spacing change nothing but appearance. Without spaces and in small letters
all that is written is the same as with these options at rest. -/
namespace AsmListing

/-- The options with small letters, no spaces and no column for the operands. -/
def FormatOptions.unadorned (o : FormatOptions) : FormatOptions :=
  { o with
    uppercasePrefixes := false
    uppercaseMnemonics := false
    uppercaseRegisters := false
    uppercaseKeywords := false
    uppercaseDecorators := false
    uppercaseAll := false
    uppercaseHex := false
    firstOperandColumn := 0
    spaceAfterSeparator := false
    spaceInsideBrackets := false
    spaceAroundAdd := false
    spaceAroundMul := false }

namespace Numeral

theorem map_groups (g : Char → Char) (size : Nat) (ds : List Char) :
    groups size (ds.map g) = (groups size ds).map (List.map g) := by
  induction ds with
  | nil => rfl
  | cons d ds ih =>
    rw [List.map_cons, groups, ih, groups]
    cases groups size ds with
    | nil => rfl
    | cons first rest =>
      simp only [List.map_cons, List.length_map]
      split <;> rfl

private theorem map_intercalate (g : Char → Char) (separator : List Char) (gs : List (List Char)) :
    (separator.intercalate gs).map g = (separator.map g).intercalate (gs.map (List.map g)) := by
  induction gs with
  | nil => rfl
  | cons first rest ih =>
    by_cases hrest : rest = []
    · simp [hrest]
    · rw [List.intercalate_cons_of_ne_nil hrest, List.map_append, List.map_append, ih, List.map_cons,
        List.intercalate_cons_of_ne_nil (by simpa using hrest)]

theorem map_grouped (g : Char → Char) (separator : List Char) (size : Nat) (ds : List Char) :
    (grouped separator size ds).map g = grouped (separator.map g) size (ds.map g) := by
  simp only [grouped, List.isEmpty_map]
  split
  · rfl
  · rw [map_groups, map_intercalate]

theorem map_digits (radix : Radix) (upperCase : Bool) (n : Nat) :
    (digits radix upperCase n).map Char.toLower = (digits radix false n).map Char.toLower := by
  cases upperCase with
  | false => rfl
  | true => simp [digits, Function.comp_def]

end Numeral

namespace NumberOptions
open Numeral Text

/-- The options with small hexadecimal letters. -/
def unadorned (o : NumberOptions) : NumberOptions := { o with uppercaseHex := false }

private theorem map_padded (o : NumberOptions) (bits n : Nat) :
    (o.unadorned.padded bits n).map Char.toLower = (o.padded bits n).map Char.toLower := by
  have hdigits : (digits o.radix false n).map Char.toLower =
      (digits o.radix (o.radix = .hexadecimal && o.uppercaseHex) n).map Char.toLower :=
    (map_digits ..).symm
  have hlength := congrArg List.length hdigits
  rw [List.length_map, List.length_map] at hlength
  cases hzeros : o.leadingZeros <;> cases hwidth : o.radix.bitsPerDigit? <;>
    simp [padded, unadorned, hzeros, hwidth, List.leftpad, hdigits, hlength]

private theorem map_startedWithDigit (o : NumberOptions) (ds : List Char) :
    (o.startedWithDigit ds).map Char.toLower = o.startedWithDigit (ds.map Char.toLower) := by
  have hletter : (ds.map Char.toLower).head?.any Char.isAlpha = ds.head?.any Char.isAlpha := by
    cases ds <;> simp
  rw [startedWithDigit, startedWithDigit, hletter]
  split <;> rfl

private theorem map_body (o : NumberOptions) (bits n : Nat) :
    (o.unadorned.body bits n).map Char.toLower = (o.body bits n).map Char.toLower := by
  rw [body_eq, body_eq, map_startedWithDigit, map_startedWithDigit, map_grouped, map_grouped, map_padded]
  rfl

theorem small_render (o : NumberOptions) (bits n : Nat) :
    small (o.unadorned.render bits n) = small (o.render bits n) := by
  have hbody := small_ofList (o.map_body bits n)
  have hrender (o : NumberOptions) : small (o.render bits n) =
      if o.radix = .hexadecimal ∧ o.smallHexInDecimal ∧ n ≤ 9 then
        small (o.decimalPrefix ++ toString n ++ o.decimalSuffix)
      else small o.numberPrefix ++ small (String.ofList (o.body bits n)) ++ small o.numberSuffix := by
    rw [render]
    split
    · rfl
    · rw [small_append, small_append]
  rw [hrender, hrender, hbody]
  rfl

theorem small_unsigned (o : NumberOptions) (bits value : Int) :
    (o.unadorned.unsigned bits value).map small = (o.unsigned bits value).map small := by
  have hunsigned (o : NumberOptions) : (o.unsigned bits value).map small =
      (IntegerType.check ⟨false, bits⟩ value).bind fun _ =>
        if o.Overlong value.toNat then .error .overlong
        else .ok (small (o.render bits.toNat value.toNat)) := by
    rw [unsigned]
    cases IntegerType.check ⟨false, bits⟩ value with
    | error e => rfl
    | ok u => exact apply_ite (Except.map small) ..
  rw [hunsigned, hunsigned, small_render]
  rfl

theorem small_signed (o : NumberOptions) (bits value : Int) :
    (o.unadorned.signed bits value).map small = (o.signed bits value).map small := by
  have hsigned (o : NumberOptions) : (o.signed bits value).map small =
      (IntegerType.check ⟨true, bits⟩ value).bind fun _ =>
        if value < 0 then
          if o.signedNumber then ((o.unsigned bits (-value)).map small).map (small "-" ++ ·)
          else (o.unsigned bits (value + twoPower bits.toNat)).map small
        else (o.unsigned bits value).map small := by
    rw [signed]
    cases IntegerType.check ⟨true, bits⟩ value with
    | error e => rfl
    | ok u =>
      simp only [bind, Except.bind]
      split
      · split
        · cases o.unsigned bits (-value) with
          | error e => rfl
          | ok text => exact congrArg Except.ok (small_append _ _)
        · rfl
      · rfl
  rw [hsigned, hsigned, small_unsigned, small_unsigned, small_unsigned]
  rfl

/-- The options for numbers differ in the letters of hexadecimal digits only. -/
theorem ofFormat_unadorned (kind : NumberKind) (o : FormatOptions) :
    ofFormat kind o.unadorned = (ofFormat kind o).map unadorned := by
  have hchecked (o : NumberOptions) : o.unadorned.checked = o.checked.map unadorned := by
    rw [checked, checked, apply_ite (Except.map unadorned), apply_ite (Except.map unadorned)]
    rfl
  have hdrawn (o : FormatOptions) : ofFormat kind o = (drawn kind o).checked := rfl
  rw [hdrawn, hdrawn, ← hchecked]
  rfl

end NumberOptions

namespace Token

/-- The token with small letters. -/
def small (t : Token) : Token := ⟨t.cls, Text.small t.text⟩

/-- The tokens that are no spaces. -/
def visible (ts : List Token) : List Token := ts.filter fun t => t.cls ≠ .space

end Token

namespace Emission
variable (a b e : Emission)

/-- What remains of an emission when spaces are left out and all letters are small. -/
def bare : Emission := ⟨(Token.visible e.tokens).map Token.small, e.failure⟩

@[simp] theorem bare_space (text : String) : bare (write .space text) = {} := rfl

theorem bare_write {cls : TokenClass} (h : cls ≠ .space) (text : String) :
    bare (write cls text) = write cls (Text.small text) := by
  simp [bare, write, Token.visible, h, Token.small]

@[simp] theorem bare_append : bare (a ++ b) = bare a ++ bare b := by
  obtain ⟨tokens, failure⟩ := a
  cases failure with
  | none => simp [bare, append_def, Token.visible]
  | some cause => rfl

@[simp] theorem bare_when (condition : Bool) : bare (when condition e) = when condition (bare e) := by
  cases condition <;> rfl

@[simp] theorem when_empty (condition : Bool) : when condition {} = {} := by
  cases condition <;> rfl

theorem bare_writeOf {cls : TokenClass} (h : cls ≠ .space) (x : Except Error String) :
    bare (writeOf cls x) = writeOf cls (x.map Text.small) := by
  cases x with
  | error cause => rfl
  | ok text => exact bare_write h text

theorem bare_join (separator : Emission) (es : List Emission) :
    bare (join separator es) = join (bare separator) (es.map bare) := by
  induction es with
  | nil => rfl
  | cons e es ih =>
    cases es with
    | nil => rfl
    | cons e' es =>
      have hjoin : join separator (e :: e' :: es) = e ++ separator ++ join separator (e' :: es) := rfl
      rw [hjoin, bare_append, bare_append, ih]
      rfl

end Emission

namespace Formatter
open Emission Text

/-- The formatter with small letters and without spaces. -/
def unadorned (f : Formatter) : Formatter := ⟨f.dialect, f.options.unadorned⟩

theorem checkRounding_unadorned (f : Formatter) (i : Instruction) :
    f.unadorned.checkRounding i = f.checkRounding i := rfl

theorem small_cased (f : Formatter) (capitals : Bool) {text : String} (h : IsAscii text.toList) :
    small (f.cased capitals text) = small text := by
  rw [cased]
  split
  · exact small_upper h
  · rfl

theorem small_registerName (f : Formatter) (value : RegisterValue) :
    (f.unadorned.registerName value).map small = (f.registerName value).map small := by
  have hname (f : Formatter) (r : Register) : small (f.cased f.options.uppercaseRegisters r.name) =
      small r.name := f.small_cased _ (IsAscii.of_isAlphanum r.isAlphanum_name.1)
  unfold registerName
  split
  · rfl
  · rfl
  · simp only [Except.map, small_append, hname]
    rfl

theorem small_number (f : Formatter) (kind : NumberKind) {text : NumberOptions → Except Error String}
    (h : ∀ o, (text o.unadorned).map small = (text o).map small) :
    (f.unadorned.numberOptions kind >>= text).map small = (f.numberOptions kind >>= text).map small := by
  rw [numberOptions, numberOptions, unadorned, NumberOptions.ofFormat_unadorned]
  cases NumberOptions.ofFormat kind f.options with
  | error cause => rfl
  | ok o => exact h o

@[simp] theorem bare_register (f : Formatter) (value : RegisterValue) :
    bare (f.unadorned.register value) = bare (f.register value) := by
  have hmap (f : Formatter) : ((f.registerName value).mapError Error.argument).map small =
      ((f.registerName value).map small).mapError Error.argument := by
    cases f.registerName value <;> rfl
  rw [register, register, bare_writeOf (by decide), bare_writeOf (by decide), hmap, hmap,
    small_registerName]

theorem bare_keyword (f : Formatter) {word : String} (h : IsAscii word.toList) :
    bare (f.keyword word) = write .keyword (small word) := by
  rw [keyword, bare_append, bare_write (by decide), small_cased f _ h, bare_space, append_empty]

@[simp] theorem bare_operator (spaced : Bool) (text : String) :
    bare (operator spaced text) = write .operator (small text) := by
  simp [operator, bare_write]

@[simp] theorem bare_displacement (f : Formatter) (op : Operand) :
    bare (f.unadorned.displacement op) = bare (f.displacement op) := by
  rw [displacement, displacement, bare_writeOf (by decide), bare_writeOf (by decide)]
  exact congrArg _ (f.small_number _ fun o => o.small_unsigned _ _)

@[simp] theorem bare_segment (f : Formatter) (op : Operand) :
    bare (f.unadorned.segment op) = bare (f.segment op) := by
  simp [segment]

theorem isAscii_of_sizeKeyword? {size : Int} {word : String} (h : sizeKeyword? size = some word) :
    IsAscii word.toList := by
  unfold sizeKeyword? at h
  split at h <;> cases h <;> simp [IsAscii]

@[simp] theorem bare_sizeKeywords (f : Formatter) (op : Operand) :
    bare (f.unadorned.sizeKeywords op) = bare (f.sizeKeywords op) := by
  rw [sizeKeywords, sizeKeywords]
  cases hsize : sizeKeyword? op.size with
  | none => rfl
  | some word =>
    have hptr : IsAscii "ptr".toList := by simp [IsAscii]
    simp only [bare_when, bare_append, bare_keyword _ (isAscii_of_sizeKeyword? hsize), bare_keyword _ hptr]
    rfl

@[simp] theorem bare_registerSum (f : Formatter) (op : Operand) :
    bare (f.unadorned.registerSum op) = bare (f.registerSum op) := by
  simp [registerSum]

@[simp] theorem bare_displacementTerm (f : Formatter) (op : Operand) :
    bare (f.unadorned.displacementTerm op) = bare (f.displacementTerm op) := by
  have hminus : f.unadorned.showsMinus op = f.showsMinus op := rfl
  rw [displacementTerm, displacementTerm]
  split <;> simp [hminus]

theorem bare_memory (f : Formatter) (op : Operand) :
    bare (f.unadorned.memory op) = bare (f.memory op) := by
  have hdialect : f.unadorned.dialect = f.dialect := rfl
  have hminus : f.unadorned.showsMinus op = f.showsMinus op := rfl
  rw [memory, memory, hdialect]
  split
  · simp [parenthesized, hminus]
  · simp [bracketed, hdialect]

theorem bare_immediate (f : Formatter) (op : Operand) :
    bare (f.unadorned.immediate op) = bare (f.immediate op) := by
  have htext : (f.unadorned.immediateText op).map small = (f.immediateText op).map small := by
    refine f.small_number _ fun o => ?_
    split
    · cases op.signedImmediate with
      | error cause => rfl
      | ok value => exact o.small_signed _ value
    · exact o.small_unsigned _ _
  -- the mark of immediates belongs to the dialect, so that only the text of the number can differ
  have himmediate (f : Formatter) : bare (f.immediate op) = .ofExcept ((f.immediateText op).map small)
      fun text => bare (.when (f.dialect.immediatePrefix ≠ "")
        (.write .punctuation f.dialect.immediatePrefix)) ++ .write .number text := by
    rw [immediate]
    cases f.immediateText op with
    | error cause => rfl
    | ok text => exact (bare_append _ _).trans (congrArg _ (bare_write (by decide) text))
  rw [himmediate, himmediate, htext]
  rfl

theorem bare_nearBranch (f : Formatter) (op : Operand) :
    bare (f.unadorned.nearBranch op) = bare (f.nearBranch op) := by
  have hshort : IsAscii "short".toList := by simp [IsAscii]
  rw [nearBranch, nearBranch, bare_append, bare_append, bare_when, bare_when, bare_keyword _ hshort,
    bare_keyword _ hshort, bare_writeOf (by decide), bare_writeOf (by decide)]
  rw [f.small_number .branch fun o => o.small_unsigned _ _]
  rfl

theorem bare_realOperand (f : Formatter) (op : Operand) :
    bare (f.unadorned.realOperand op) = bare (f.realOperand op) := by
  rw [realOperand, realOperand]
  cases op.kind with
  | register => exact f.bare_register op.register
  | immediate => exact f.bare_immediate op
  | nearBranch => exact f.bare_nearBranch op
  | memory => exact f.bare_memory op
  | unknown name => rfl

theorem bare_operand (f : Formatter) (i : Instruction) (position : Int) :
    bare (f.unadorned.operand i position) = bare (f.operand i position) := by
  have hlayout : f.unadorned.layout i = f.layout i := rfl
  rw [operand, operand, bare_append, bare_append, hlayout, checkRounding_unadorned, Layout.slot]
  cases hslot : (f.layout i).slot? position with
  | none => rfl
  | some slot =>
    cases slot with
    | operand k =>
      have hreal : bare (f.unadorned.slot i (.operand k)) = bare (f.slot i (.operand k)) := by
        rw [Formatter.slot, Formatter.slot]
        cases i.operand k with
        | error cause => rfl
        | ok op => exact f.bare_realOperand op
      exact congrArg _ hreal
    | synthetic s =>
      obtain ⟨-, -, r, -, rfl⟩ := slot?_eq_synthetic.mp hslot
      have hascii : IsAscii r.decorator.toList := by
        cases r <;> simp [IsAscii, Rounding.decorator, Rounding.word]
      have hdecorator (f : Formatter) : bare (f.slot i (.synthetic ⟨r.decorator, .none⟩)) =
          write .decorator (small r.decorator) := by
        rw [Formatter.slot, bare_write (by decide), small_cased f _ hascii]
      exact congrArg _ ((hdecorator f.unadorned).trans (hdecorator f).symm)

theorem bare_operandList (f : Formatter) (i : Instruction) :
    bare (f.unadorned.operandList i) = bare (f.operandList i) := by
  have hseparator (f : Formatter) : bare f.separator = write .separator (small ",") := by
    simp [separator, bare_write]
  have hcount : f.unadorned.operandCount i = f.operandCount i := rfl
  rw [operandList, operandList, bare_join, bare_join, List.map_map, List.map_map, hseparator, hseparator,
    hcount]
  exact congrArg _ (List.map_congr_left fun k _ => f.bare_operand i k)

/-- The prefixes and the mnemonic remain. -/
theorem bare_mnemonic (f : Formatter) {i : Instruction} (h : IsAscii i.mnemonic.toList) :
    bare (f.mnemonic i) = ofTokens (i.prefixes.toList.map (fun p => ⟨.prefixWord, small p.word⟩) ++
      [⟨.mnemonic, small i.mnemonic⟩]) := by
  have hword (p : Prefix) : small (f.cased f.options.uppercasePrefixes p.word) = small p.word :=
    f.small_cased _ (by cases p <;> simp [IsAscii, Prefix.word])
  have hwords (ps : List Prefix) : (Token.visible ((ps.map fun p => Token.mk .prefixWord
      (f.cased f.options.uppercasePrefixes p.word)).flatMap fun w => [w, space])).map Token.small =
        ps.map fun p => ⟨.prefixWord, small p.word⟩ := by
    induction ps with
    | nil => rfl
    | cons p ps ih => simpa [Token.visible, space, Token.small, hword] using ih
  have hname := f.small_cased f.options.uppercaseMnemonics h
  simp only [mnemonic, mnemonicTokens, bare, ofTokens, if_true]
  split <;>
    simp only [Token.visible, List.filter_append, List.map_append] at hwords ⊢ <;>
    rw [hwords] <;>
    simp [Token.small, hname]

theorem bare_instruction (f : Formatter) {i : Instruction} (h : IsAscii i.mnemonic.toList) :
    bare (f.unadorned.instruction i) = bare (f.instruction i) := by
  simp only [instruction, mnemonicThenOperands, allOperands, bare_append, bare_mnemonic _ h,
    bare_operandList, checkRounding_unadorned]

/-- Two sets of options that differ in letter case and spacing only give the same text up to spaces and
the case of letters. With both the instruction is written or fails for the same cause, and but for spaces
the same tokens are written, with texts that are the same in small letters. -/
theorem appearance_options_cosmetic (d : Dialect) {o o' : FormatOptions} (ho : o.unadorned = o'.unadorned)
    {i : Instruction} (hm : IsAscii i.mnemonic.toList) :
    (instruction ⟨d, o⟩ i).failure = (instruction ⟨d, o'⟩ i).failure ∧
      List.Forall₂ (fun t t' => t.cls = t'.cls ∧ small t.text = small t'.text)
        (Token.visible (instruction ⟨d, o⟩ i).tokens) (Token.visible (instruction ⟨d, o'⟩ i).tokens) := by
  have hunadorned : (Formatter.mk d o).unadorned = (Formatter.mk d o').unadorned := by
    rw [unadorned, unadorned, ho]
  have hbare : bare (instruction ⟨d, o⟩ i) = bare (instruction ⟨d, o'⟩ i) :=
    calc bare (instruction ⟨d, o⟩ i)
      _ = bare ((Formatter.mk d o).unadorned.instruction i) := (bare_instruction _ hm).symm
      _ = bare ((Formatter.mk d o').unadorned.instruction i) := by rw [hunadorned]
      _ = bare (instruction ⟨d, o'⟩ i) := bare_instruction _ hm
  have hfailure (e : Emission) : (bare e).failure = e.failure := rfl
  have htokens : List.Forall₂ (· = ·) (bare (instruction ⟨d, o⟩ i)).tokens
      (bare (instruction ⟨d, o'⟩ i)).tokens := by
    rw [List.forall₂_eq_eq_eq, hbare]
  rw [bare, bare, List.forall₂_map_left_iff, List.forall₂_map_right_iff] at htokens
  refine ⟨by rw [← hfailure, hbare, hfailure], htokens.imp fun t t' h => ?_⟩
  exact Token.mk.injEq .. ▸ h

/-- In the first text the number starts with a zero, lest a letter stand there, and so in the second. -/
theorem appearance_options_cosmetic_capitals :
    let o := { FormatOptions.masm with uppercaseHex := false }
    let o' :=
      { FormatOptions.masm with uppercaseAll := true, firstOperandColumn := 12, spaceAroundAdd := true }
    let i : Instruction := { mnemonic := "add", prefixes := ⟨1⟩, operands := [
      { kind := .memory, size := 4, base := .register .rax, displacement := 0xabc }] }
    o.unadorned = o'.unadorned ∧ Text.IsAscii i.mnemonic.toList ∧
      (instruction ⟨.masm, o⟩ i).text = "lock add dword ptr [rax+0abch]" ∧
      (instruction ⟨.masm, o'⟩ i).text = "LOCK ADD    DWORD PTR [RAX + 0ABCh]" ∧
      List.Forall₂ (fun t t' => t.cls = t'.cls ∧ small t.text = small t'.text)
        (Token.visible (instruction ⟨.masm, o⟩ i).tokens)
        (Token.visible (instruction ⟨.masm, o'⟩ i).tokens) := by
  intro o o' i
  have hm : Text.IsAscii i.mnemonic.toList := by simp [i, IsAscii]
  have ho : o.unadorned = o'.unadorned := rfl
  exact ⟨ho, hm, by decide +kernel, by decide +kernel, (appearance_options_cosmetic .masm ho hm).2⟩

end Formatter
end AsmListing
