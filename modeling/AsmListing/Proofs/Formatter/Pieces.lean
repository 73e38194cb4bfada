import Mathlib
import AsmListing.Proofs.Formatter.Failure
import AsmListing.Proofs.Layout.Positions

/-! The tokens of an operand list can be cut into those of the operands. No operand writes a separator, and
the brackets of an operand open and close within it. -/
namespace AsmListing
namespace Token

/-- The token separates operands, or is a bracket of a memory operand. -/
def isBoundary (t : Token) : Bool := t.cls = .separator || t.cls = .beginMemory || t.cls = .endMemory

/-- The space that stands in front is dropped. -/
def dropSpace : List Token → List Token
  | [] => []
  | t :: ts => if t.cls = .space then ts else t :: ts

/-- The stretches between separators. If `spaced`, the space after a separator goes with it. -/
def pieces (spaced : Bool) (ts : List Token) : List (List Token) :=
  match ts.splitOnP fun t => t.cls = .separator with
  | [] => []
  | first :: rest => first :: if spaced then rest.map dropSpace else rest

/-- Follow the brackets: an opening one stands outside, a closing one inside and a separator outside.
Nothing results where one of them stands elsewhere. -/
def step (inside : Bool) (t : Token) : Option Bool :=
  match t.cls with
  | .beginMemory => if inside then none else some true
  | .endMemory => if inside then some false else none
  | .separator => if inside then none else some false
  | _ => some inside

/-- Whether the tokens end inside brackets, if brackets and separators stand where they may. -/
def follow (inside : Bool) (ts : List Token) : Option Bool := ts.foldlM step inside

theorem follow_append {inside between : Bool} {ts us : List Token} (h : follow inside ts = some between) :
    follow inside (ts ++ us) = follow between us := by
  rw [follow, List.foldlM_append, show ts.foldlM step inside = some between from h]
  rfl

theorem step_of_not_isBoundary {t : Token} (h : t.isBoundary = false) (inside : Bool) :
    step inside t = some inside := by
  obtain ⟨cls, text⟩ := t
  cases cls <;> first | rfl | cases h

theorem follow_of_not_isBoundary {ts : List Token} (h : ∀ t ∈ ts, t.isBoundary = false) (inside : Bool) :
    follow inside ts = some inside := by
  induction ts with
  | nil => rfl
  | cons t ts ih =>
    rw [follow, List.foldlM_cons, step_of_not_isBoundary (h t List.mem_cons_self)]
    exact ih fun u hu => h u (List.mem_cons_of_mem t hu)

/-- Pieces without separators are found again between separators, each with what followed its separator. -/
theorem splitOnP_intercalate {sep : Token} (hsep : sep.cls = .separator) {gap : List Token}
    (hgap : ∀ t ∈ gap, t.cls ≠ .separator) {first : List Token} {rest : List (List Token)}
    (h : ∀ p ∈ first :: rest, ∀ t ∈ p, t.cls ≠ .separator) :
    ((sep :: gap).intercalate (first :: rest)).splitOnP (fun t => t.cls = .separator) =
      first :: rest.map (gap ++ ·) := by
  have hone {p : List Token} (hp : ∀ t ∈ p, t.cls ≠ .separator) :
      ∀ t ∈ p, decide (t.cls = .separator) = false := fun t ht => decide_eq_false (hp t ht)
  induction rest generalizing first with
  | nil =>
    rw [List.intercalate_singleton]
    exact List.splitOnP_eq_singleton (hone (h first List.mem_cons_self))
  | cons second rest ih =>
    have hfirst := h first List.mem_cons_self
    have hnext : ∀ p ∈ (gap ++ second) :: rest, ∀ t ∈ p, t.cls ≠ .separator := by
      intro p hp
      rcases List.mem_cons.mp hp with rfl | hp
      · exact List.forall_mem_append.mpr ⟨hgap, h second (by simp)⟩
      · exact h p (by simp [hp])
    have hjoin : (sep :: gap).intercalate (first :: second :: rest) =
        first ++ sep :: (sep :: gap).intercalate ((gap ++ second) :: rest) := by
      cases rest <;> simp [List.intercalate]
    rw [hjoin, List.splitOnP_append_cons_of_forall_mem (hone hfirst) _ (decide_eq_true hsep), ih hnext]
    rfl

/-- What is written for one operand: no separator, and one pair of brackets or none. -/
structure IsPiece (paired : Bool) (ts : List Token) : Prop where
  unseparated : ∀ t ∈ ts, t.cls ≠ .separator
  closed : follow false ts = some false
  brackets : ((ts.map cls).filter fun c => c = .beginMemory || c = .endMemory) =
    if paired then [.beginMemory, .endMemory] else []

theorem cls_of_not_isBoundary {t : Token} (h : t.isBoundary = false) :
    t.cls ≠ .separator ∧ t.cls ≠ .beginMemory ∧ t.cls ≠ .endMemory := by
  simpa [isBoundary, and_assoc] using h

private theorem filter_of_not_isBoundary {ts : List Token} (h : ∀ t ∈ ts, t.isBoundary = false) :
    ((ts.map cls).filter fun c => c = .beginMemory || c = .endMemory) = [] := by
  rw [List.filter_eq_nil_iff, List.forall_mem_map]
  intro t ht
  simp [cls_of_not_isBoundary (h t ht)]

theorem isPiece_of_not_isBoundary {ts : List Token} (h : ∀ t ∈ ts, t.isBoundary = false) :
    IsPiece false ts :=
  ⟨fun t ht => (cls_of_not_isBoundary (h t ht)).1, follow_of_not_isBoundary h false,
    filter_of_not_isBoundary h⟩

/-- One pair of brackets, with something before it and in it. -/
theorem isPiece_of_pair {before inner : List Token} (hbefore : ∀ t ∈ before, t.isBoundary = false)
    (hinner : ∀ t ∈ inner, t.isBoundary = false) (opening closing : String) :
    IsPiece true (before ++ ⟨.beginMemory, opening⟩ :: (inner ++ [⟨.endMemory, closing⟩])) where
  unseparated := by
    simp only [List.forall_mem_append, List.forall_mem_cons]
    exact ⟨fun t ht => (cls_of_not_isBoundary (hbefore t ht)).1, by simp,
      fun t ht => (cls_of_not_isBoundary (hinner t ht)).1, by simp, by simp⟩
  closed := by
    rw [follow_append (follow_of_not_isBoundary hbefore false), follow, List.foldlM_cons]
    exact follow_append (follow_of_not_isBoundary hinner true)
  brackets := by
    simp [filter_of_not_isBoundary hbefore, filter_of_not_isBoundary hinner]

theorem follow_intercalate {separator : List Token} (hs : follow false separator = some false)
    {ps : List (List Token)} (h : ∀ p ∈ ps, follow false p = some false) :
    follow false (separator.intercalate ps) = some false := by
  induction ps with
  | nil => rfl
  | cons p ps ih =>
    have hp := h p List.mem_cons_self
    have hrest := ih fun q hq => h q (List.mem_cons_of_mem p hq)
    by_cases hne : ps = []
    · rwa [hne, List.intercalate_singleton]
    · rw [List.intercalate_cons_of_ne_nil hne, List.append_assoc, follow_append hp, follow_append hs, hrest]

end Token

namespace Emission
variable {a b e : Emission}

/-- Neither separators nor brackets are written. -/
def Unbroken (e : Emission) : Prop := ∀ t ∈ e.tokens, t.isBoundary = false

theorem mem_tokens_append {t : Token} (h : t ∈ (a ++ b).tokens) : t ∈ a.tokens ∨ t ∈ b.tokens := by
  rw [append_def] at h
  split at h
  · exact .inl h
  · exact List.mem_append.mp h

theorem closed_unbroken : Closed Unbroken where
  empty := by
    intro t ht
    cases ht
  append ha hb t ht := (mem_tokens_append ht).elim (ha t) (hb t)

theorem unbroken_write {cls : TokenClass} {text : String} (h : Token.isBoundary ⟨cls, text⟩ = false) :
    (write cls text).Unbroken := fun t ht => by rwa [List.mem_singleton.mp ht]

theorem unbroken_ofExcept {α : Type} {x : Except Error α} {next : α → Emission}
    (h : ∀ a, (next a).Unbroken) : (ofExcept x next).Unbroken := by
  cases x with
  | ok a => exact h a
  | error e => exact fun t ht => (nomatch ht)

theorem isPiece_enclosed {outer inner : Emission} {opening closing : String} (houter : outer.Unbroken)
    (hinner : inner.Unbroken)
    (h : (outer ++ write .beginMemory opening ++ inner ++ write .endMemory closing).failure = none) :
    Token.IsPiece true (outer ++ write .beginMemory opening ++ inner ++ write .endMemory closing).tokens := by
  have hparts := (failure_append_eq_none.mp h).1
  have hfront := (failure_append_eq_none.mp hparts).1
  rw [tokens_append_of_succeeds hparts, tokens_append_of_succeeds hfront,
    tokens_append_of_succeeds (failure_append_eq_none.mp hfront).1, List.append_assoc, List.append_assoc]
  exact Token.isPiece_of_pair houter hinner opening closing

end Emission

namespace Formatter
open Emission

theorem unbroken_register (f : Formatter) (value : RegisterValue) : (f.register value).Unbroken :=
  unbroken_ofExcept fun _ => unbroken_write rfl

theorem parts_unbroken (f : Formatter) (op : Operand) : f.Parts op Unbroken where
  toClosed := closed_unbroken
  write hcls _ := by
    simp only [List.mem_cons, List.not_mem_nil, or_false] at hcls
    rcases hcls with rfl | rfl | rfl | rfl | rfl <;> exact unbroken_write rfl
  register _ _ := f.unbroken_register _
  displacement := unbroken_ofExcept fun _ => unbroken_write rfl

theorem unbroken_immediate (f : Formatter) (op : Operand) : (f.immediate op).Unbroken := by
  refine unbroken_ofExcept fun _ => closed_unbroken.append ?_ (unbroken_write rfl)
  exact closed_unbroken.when fun _ => unbroken_write rfl

theorem unbroken_nearBranch (f : Formatter) (op : Operand) : (f.nearBranch op).Unbroken := by
  refine closed_unbroken.append ?_ (unbroken_ofExcept fun _ => unbroken_write rfl)
  exact closed_unbroken.when fun _ => (f.parts_unbroken op).keyword "short"

/-- The operand is written with brackets. A mere number stands for memory in the dialects that put the
registers in parentheses. -/
def writesBrackets (f : Formatter) (op : Operand) : Bool :=
  op.kind = .memory && (f.dialect.memoryStyle ≠ .gas || hasRegisters op)

theorem isPiece_bracketed {f : Formatter} {op : Operand} (h : (f.bracketed op).failure = none) :
    Token.IsPiece true (f.bracketed op).tokens := by
  have hparts := f.parts_unbroken op
  rw [bracketed_eq_enclosed] at h ⊢
  exact isPiece_enclosed hparts.beforeBracket hparts.betweenBrackets h

theorem isPiece_parenthesized {f : Formatter} {op : Operand} (h : (f.parenthesized op).failure = none) :
    Token.IsPiece (hasRegisters op) (f.parenthesized op).tokens := by
  have hparts := f.parts_unbroken op
  rw [parenthesized_eq_enclosed] at h ⊢
  cases hregisters : hasRegisters op with
  | false => exact Token.isPiece_of_not_isBoundary hparts.beforeParenthesis
  | true =>
    rw [hregisters] at h
    exact isPiece_enclosed hparts.beforeParenthesis hparts.betweenParentheses h

theorem isPiece_realOperand {f : Formatter} {op : Operand} (h : (f.realOperand op).failure = none) :
    Token.IsPiece (f.writesBrackets op) (f.realOperand op).tokens := by
  rw [realOperand, writesBrackets] at *
  cases hkind : op.kind with
  | register => exact Token.isPiece_of_not_isBoundary (f.unbroken_register op.register)
  | immediate => exact Token.isPiece_of_not_isBoundary (f.unbroken_immediate op)
  | nearBranch => exact Token.isPiece_of_not_isBoundary (f.unbroken_nearBranch op)
  | unknown name =>
    rw [hkind] at h
    cases h
  | memory =>
    rw [hkind] at h
    simp only [memory] at h ⊢
    cases hstyle : f.dialect.memoryStyle with
    | gas =>
      rw [hstyle] at h
      exact isPiece_parenthesized h
    | intel | nasm =>
      rw [hstyle] at h
      exact isPiece_bracketed h

/-- The slot shows an operand that is written with brackets. -/
def slotWritesBrackets (f : Formatter) (i : Instruction) : Slot → Bool
  | .synthetic _ => false
  | .operand k => match i.operand k with
    | .ok op => f.writesBrackets op
    | .error _ => false

theorem isPiece_slot {f : Formatter} {i : Instruction} {s : Slot} (h : (f.slot i s).failure = none) :
    Token.IsPiece (f.slotWritesBrackets i s) (f.slot i s).tokens := by
  cases s with
  | synthetic op => exact Token.isPiece_of_not_isBoundary (unbroken_write rfl)
  | operand k =>
    rw [slot, slotWritesBrackets] at *
    cases hop : i.operand k with
    | ok op =>
      rw [hop] at h
      exact isPiece_realOperand h
    | error e =>
      rw [hop] at h
      cases h

theorem separator_tokens (f : Formatter) : f.separator.tokens =
    ⟨.separator, ","⟩ :: if f.options.spaceAfterSeparator then [⟨.space, " "⟩] else [] := by
  rw [separator]
  cases f.options.spaceAfterSeparator <;> rfl

/-- Cutting the list at its separators gives the pieces between them. -/
theorem pieces_intercalate (f : Formatter) {ps : List (List Token)} (hne : ps ≠ [])
    (h : ∀ p ∈ ps, ∀ t ∈ p, t.cls ≠ .separator) :
    Token.pieces f.options.spaceAfterSeparator (f.separator.tokens.intercalate ps) = ps := by
  obtain ⟨first, rest, rfl⟩ := List.exists_cons_of_ne_nil hne
  rw [separator_tokens, Token.pieces, Token.splitOnP_intercalate rfl ?_ h]
  · cases f.options.spaceAfterSeparator with
    | false => simp
    | true =>
      simp only [if_true, List.map_map]
      exact congrArg _ (List.map_id rest)
  · cases f.options.spaceAfterSeparator <;> simp

/-- The operands that are written one after the other can be told apart. Cut at its separators, the list
falls into the operands as they are written alone. Brackets alternate with no separator between an
opening one and its closing one, and an operand has one pair of them just if it is a memory operand that
is written with brackets. -/
theorem allOperands_cut_into_operands {f : Formatter} (hf : f.Valid) {i : Instruction} (hi : i.Built)
    (h : ¬f.Inexpressible i) :
    (f.allOperands i).failure = none ∧
    (f.operandCount i = 0 → (f.allOperands i).tokens = []) ∧
    (0 < f.operandCount i →
      Token.pieces f.options.spaceAfterSeparator (f.allOperands i).tokens =
        (List.range (f.operandCount i)).map fun (k : Nat) => (f.operand i k).tokens) ∧
    Token.follow false (f.allOperands i).tokens = some false ∧
    ∀ (k : Nat) (s : Slot), (f.layout i).slot? k = some s →
      (((f.operand i k).tokens.map Token.cls).filter fun c => c = .beginMemory || c = .endMemory) =
        if f.slotWritesBrackets i s then [.beginMemory, .endMemory] else [] := by
  have hsucceeds (k : Nat) (hk : k < f.operandCount i) : (f.operand i k).failure = none :=
    failure_operand hf hi h (by omega) (by omega)
  have hpiece (k : Nat) (s : Slot) (hs : (f.layout i).slot? k = some s) :
      Token.IsPiece (f.slotWritesBrackets i s) (f.operand i k).tokens := by
    have hget : (f.slots i)[k]? = some s := (Layout.slot?_eq_some.mp hs).2
    obtain ⟨hk, rfl⟩ := List.getElem?_eq_some_iff.mp hget
    have heq := operand_eq_slot h hk
    have hfails := hsucceeds k hk
    rw [heq] at hfails ⊢
    exact isPiece_slot hfails
  have hall : ∀ p ∈ (List.range (f.operandCount i)).map fun (k : Nat) => (f.operand i k).tokens,
      ∃ paired, Token.IsPiece paired p := by
    intro p hp
    obtain ⟨k, hk, rfl⟩ := List.mem_map.mp hp
    obtain ⟨s, hs⟩ := Option.isSome_iff_exists.mp
      (Layout.slot?_isSome.mpr ⟨Int.natCast_nonneg k, Int.ofNat_lt.mpr (List.mem_range.mp hk)⟩)
    exact ⟨_, hpiece k s hs⟩
  have hwritten : f.allOperands i = .ofTokens (f.separator.tokens.intercalate
      ((List.range (f.operandCount i)).map fun (k : Nat) => (f.operand i k).tokens)) := by
    rw [allOperands, checkRounding_of_expressible h, empty_append, operandList_of_succeeds hsucceeds]
  rw [hwritten, tokens_ofTokens]
  refine ⟨rfl, fun hzero => ?_, fun hpos => ?_, ?_, fun k s hs => (hpiece k s hs).brackets⟩
  · rw [hzero]
    rfl
  · apply f.pieces_intercalate
    · simpa using hpos.ne'
    · intro p hp
      obtain ⟨paired, hp⟩ := hall p hp
      exact hp.unseparated
  · refine Token.follow_intercalate ?_ fun p hp => ?_
    · rw [separator_tokens]
      cases f.options.spaceAfterSeparator <;> rfl
    · obtain ⟨paired, hp⟩ := hall p hp
      exact hp.closed

/-- Commas inside an operand, an address without registers, and a rounding control. -/
theorem allOperands_cut_into_operands_commas :
    let f : Formatter := ⟨.gas, { FormatOptions.gas with spaceAfterSeparator := true }⟩
    let i : Instruction := { mnemonic := "vaddps", rounding := some .down, operands := [
      { kind := .memory, displacement := 16 },
      { kind := .memory, size := 4, base := .register .rax, index := .register .rbx, scale := 4 }] }
    f.Valid ∧ i.Built ∧ ¬f.Inexpressible i ∧
      (f.operand i 1).tokens = [⟨.beginMemory, "("⟩, ⟨.register, "%rax"⟩, ⟨.punctuation, ","⟩,
        ⟨.register, "%rbx"⟩, ⟨.punctuation, ","⟩, ⟨.number, "4"⟩, ⟨.endMemory, ")"⟩] ∧
      Token.pieces true (f.allOperands i).tokens = [(f.operand i 0).tokens, (f.operand i 1).tokens,
        (f.operand i 2).tokens] ∧
      ((f.operand i 2).tokens.map Token.cls).filter (fun c => c = .beginMemory || c = .endMemory) = [] := by
  intro f i
  have hi : i.Built := by
    intro op hop
    rcases List.mem_cons.mp hop with rfl | hop
    · exact .memory (show Operand.ofMemory { displacement := 16 } .read false = .ok _ from rfl)
    · rw [List.mem_singleton.mp hop]
      exact .memory (show Operand.ofMemory
        { size := 4, base := .register .rax, index := .register .rbx, scale := 4 } .read false = .ok _ from rfl)
  have hexpressible : ¬f.Inexpressible i := fun h => absurd h.2 (by decide)
  obtain ⟨-, -, hpieces, -, hbrackets⟩ := allOperands_cut_into_operands (f := f) rfl hi hexpressible
  exact ⟨rfl, hi, hexpressible, rfl, hpieces (by decide), hbrackets 2 _ rfl⟩

end Formatter
end AsmListing
