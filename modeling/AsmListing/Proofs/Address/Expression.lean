import Mathlib
import AsmListing.Dialect
import AsmListing.Operand
import AsmListing.Reader.Meaning
import AsmListing.Token

/-! Addresses. A memory operand has an address over the contents of the registers, and tokens are read as
an expression that stands for one. -/
namespace AsmListing

namespace Operand

/-- The content of a register; an absent one counts as zero. -/
def content (regs : Register → Int) (value : RegisterValue) : Int :=
  match value.register? with
  | none | some .none => 0
  | some r => regs r

/-- The address of a memory operand, before it is cut to 64 bits. -/
def address (regs : Register → Int) (op : Operand) : Int :=
  content regs op.base + content regs op.index * op.scale + op.displacement

@[simp] theorem content_none (regs : Register → Int) : content regs (.register .none) = 0 := rfl

theorem content_register (regs : Register → Int) {r : Register} (h : r ≠ .none) :
    content regs r = regs r := by
  unfold content
  split
  · next hnone => cases hnone
  · next hnone => exact absurd (Option.some.inj hnone) h
  · next r' hr => exact congrArg regs (Option.some.inj hr).symm

end Operand

namespace Address

/-- The register that a token names, with or without the mark of registers before its name. -/
def register? (t : Token) : Option Register :=
  if t.cls = .register then
    (readRegister (String.ofList (t.text.toList.dropWhile (· == '%')))).toOption
  else none

def value? (regs : Register → Int) (t : Token) : Option Int :=
  if t.cls = .number then (readNumber t.text).toOption else (register? t).map regs

/-- The value of a sum from its second summand on. The last product so far is kept apart, for a factor
may follow. -/
def sumFrom? (value : Token → Option Int) (total product : Int) : List Token → Option Int
  | [] => some (total + product)
  | [_] => none
  | op :: t :: rest =>
    if op = ⟨.operator, "+"⟩ then (value t).bind fun v => sumFrom? value (total + product) v rest
    else if op = ⟨.operator, "-"⟩ then
      (value t).bind fun v => sumFrom? value (total + product) (-v) rest
    else if op = ⟨.operator, "*"⟩ then
      (value t).bind fun v => sumFrom? value total (product * v) rest
    else none

def sum? (value : Token → Option Int) : List Token → Option Int
  | [] => none
  | t :: rest => (value t).bind fun v => sumFrom? value 0 v rest

/-- The token before a colon at the front, and the tokens after them. -/
def splitSegment : List Token → Option Token × List Token
  | r :: c :: rest =>
    if c = ⟨.punctuation, ":"⟩ then (some r, rest) else (none, r :: c :: rest)
  | ts => (none, ts)

/-- The tokens between the given brackets, if they enclose all of them. -/
def enclosed? (opening closing : Token) : List Token → Option (List Token)
  | t :: rest => if t = opening ∧ rest.getLast? = some closing then some rest.dropLast else none
  | [] => none

/-- The segment and the sum of a bracketed operand, behind the words for its size. The segment stands
before the brackets or inside them. -/
def bracketed? (ts : List Token) : Option (Option Token × List Token) :=
  let (outer, rest) := splitSegment (ts.filter fun t => t.cls ≠ .keyword ∧ t.cls ≠ .space)
  (enclosed? ⟨.beginMemory, "["⟩ ⟨.endMemory, "]"⟩ rest).map fun inside =>
    let (inner, sum) := splitSegment inside
    (outer.or inner, sum)

/-- The displacement that stands before parentheses. -/
def displacement? (value : Token → Option Int) : List Token → Option Int
  | [] => some 0
  | [n] => value n
  | [minus, n] => if minus = ⟨.operator, "-"⟩ then (value n).map fun v => -v else none
  | _ => none

/-- Base, index and scale in parentheses, with commas between them. The base can be missing, and then
the comma after it stays. -/
def listed? (value : Token → Option Int) (ts : List Token) : Option Int :=
  match ts.splitOnP (· = ⟨.punctuation, ","⟩) with
  | [[base]] => value base
  | [[], [index]] => value index
  | [[base], [index]] => do return (← value base) + (← value index)
  | [[], [index], [scale]] => do return (← value index) * (← value scale)
  | [[base], [index], [scale]] => do return (← value base) + (← value index) * (← value scale)
  | _ => none

def parenthesized? (value : Token → Option Int) (ts : List Token) : Option Int :=
  let front := ts.takeWhile (·.cls ≠ .beginMemory)
  match ts.dropWhile (·.cls ≠ .beginMemory) with
  | [] => if front = [] then none else displacement? value front
  | inside => do
    let n ← displacement? value front
    let m ← (enclosed? ⟨.beginMemory, "("⟩ ⟨.endMemory, ")"⟩ inside).bind (listed? value)
    return n + m

/-- The segment that the tokens of a memory operand name. -/
def segment? (style : MemoryStyle) (ts : List Token) : Option Register :=
  (match style with
  | .gas => (splitSegment ts).1
  | _ => (bracketed? ts).bind Prod.fst).bind register?

/-- The value of the address expression that the tokens of a memory operand spell. -/
def read? (style : MemoryStyle) (regs : Register → Int) (ts : List Token) : Option Int :=
  match style with
  | .gas => parenthesized? (value? regs) (splitSegment ts).2
  | _ => (bracketed? ts).bind fun parts => sum? (value? regs) parts.2

theorem splitSegment_of_not_mem {ts : List Token} (h : ⟨.punctuation, ":"⟩ ∉ ts) :
    splitSegment ts = (none, ts) := by
  unfold splitSegment
  split
  · next r c rest =>
    have hc : c ≠ ⟨.punctuation, ":"⟩ := fun heq => h (by simp [heq])
    rw [if_neg hc]
  · rfl

theorem colon_not_mem {ts : List Token} (h : ∀ t ∈ ts, t.cls ≠ .punctuation) :
    ⟨.punctuation, ":"⟩ ∉ ts :=
  fun hmem => h _ hmem rfl

theorem enclosed?_append (opening closing : Token) (ts : List Token) :
    enclosed? opening closing (opening :: (ts ++ [closing])) = some ts := by
  simp [enclosed?]

/-- Words for a size are passed over, and the rest stays as it is. -/
theorem filter_words {ks us : List Token} (hks : ∀ t ∈ ks, t.cls = .keyword ∨ t.cls = .space)
    (hus : ∀ t ∈ us, t.cls ≠ .keyword ∧ t.cls ≠ .space) :
    (ks ++ us).filter (fun t => t.cls ≠ .keyword ∧ t.cls ≠ .space) = us := by
  have hwords : ks.filter (fun t => t.cls ≠ .keyword ∧ t.cls ≠ .space) = [] := by
    rw [List.filter_eq_nil_iff]
    intro t ht
    rcases hks t ht with h | h <;> simp [h]
  rw [List.filter_append, hwords, List.nil_append, List.filter_eq_self]
  simpa using hus

end Address
end AsmListing
