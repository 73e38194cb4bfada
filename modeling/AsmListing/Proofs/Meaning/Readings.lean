import Mathlib
import AsmListing.Proofs.Meaning.Lexical
import AsmListing.Proofs.Meaning.Summands
import AsmListing.Proofs.Reader.Operands
import AsmListing.Proofs.Reader.Spelling
import AsmListing.Proofs.Text.Trim

/-! What the operands of a sentence stand for, each by itself. -/
namespace AsmListing
open Outcome
open Numeral (spelled TooLong)

/-- The name is that of a register, in letters of either case. -/
def IsRegister (name : String) : Prop := ∃ r ∈ Register.all, r.symbol = Text.upper name
  deriving Decidable

/-- The register of that name. -/
def registerOf (name : String) : Register := (Register.ofSymbol? (Text.upper name)).getD .none

section Names
variable {name : String} {r : Register}

theorem registerOf_eq (h : r.symbol = Text.upper name) : registerOf name = r := by
  rw [registerOf, Register.ofSymbol?_eq_some.mpr h, Option.getD_some]

theorem readRegister_iff : readRegister name = .ok r ↔ IsRegister name ∧ registerOf name = r := by
  rw [readRegister_eq_ok]
  constructor
  · intro h
    exact ⟨⟨r, r.mem_all, h⟩, registerOf_eq h⟩
  · rintro ⟨⟨r', -, h⟩, rfl⟩
    rwa [registerOf_eq h]

theorem symbol_registerOf (h : IsRegister name) : (registerOf name).symbol = Text.upper name :=
  readRegister_eq_ok.mp (readRegister_iff.mpr ⟨h, rfl⟩)

theorem registerOf_ne_none (h : IsRegister name) (hnone : Text.upper name ≠ "NONE") :
    registerOf name ≠ .none := by
  intro heq
  have hsymbol := symbol_registerOf h
  rw [heq] at hsymbol
  exact hnone (hsymbol.symm.trans (by decide))

end Names

/-- A number of the reader is read as what it spells, unless it is too long. -/
theorem numberValue_of_isNumber {text : String} (h : Terminal.isNumber text.toList) :
    numberValue text = if TooLong text.toList then .error (.literal (.overlong text.toList.length))
      else .ok (spelled text.toList) := by
  have hread := (Numeral.spells_spelled h).readNumber_eq
  rw [String.ofList_toList] at hread
  rw [numberValue, hread]
  split <;> rfl

theorem numberValue_eq_ok {text : String} {n : Int} (h : Terminal.isNumber text.toList) :
    numberValue text = .ok n ↔ ¬TooLong text.toList ∧ spelled text.toList = n := by
  rw [numberValue_of_isNumber h, ite_error_eq_ok, Except.ok.injEq]

namespace Term
variable {t : Term} {v : TermValue}

def name? : Term → Option String
  | .register name | .scaled name _ => some name
  | .number _ => none

def number? : Term → Option String
  | .scaled _ text | .number text => some text
  | .register _ => none

def reading : Term → TermValue
  | .register name => .register (registerOf name)
  | .scaled name factor => .scaled (registerOf name) (spelled factor.toList)
  | .number text => .number (spelled text.toList)

private theorem value_eq_ok (h : t.Fits) :
    t.value = .ok v ↔ (∀ name ∈ t.name?, IsRegister name) ∧ (∀ text ∈ t.number?, ¬TooLong text.toList) ∧
      t.reading = v := by
  cases t with
  | register name =>
    rw [value, map_eq_ok]
    simp [readRegister_iff, name?, number?, reading, and_assoc]
  | scaled name factor =>
    rw [value, bind_eq_ok]
    simp only [bind_eq_ok, readRegister_iff, numberValue_eq_ok h, name?, number?, reading,
      Option.mem_some_iff, forall_eq']
    constructor
    · rintro ⟨r, ⟨hname, rfl⟩, n, ⟨hshort, rfl⟩, hv⟩
      exact ⟨hname, hshort, Except.ok.inj hv⟩
    · rintro ⟨hname, hshort, rfl⟩
      exact ⟨_, ⟨hname, rfl⟩, _, ⟨hshort, rfl⟩, rfl⟩
  | number text =>
    rw [value, map_eq_ok]
    simp [numberValue_eq_ok h, name?, number?, reading, and_assoc]

end Term

namespace Phrase

/-- The summands of a memory operand. -/
def summands (first : Term) (more : List (Sign × Term)) : List (Sign × Term) := (.plus, first) :: more

def readings (ts : List (Sign × Term)) : List (Sign × TermValue) := ts.map fun t => (t.1, t.2.reading)

/-- The names of registers in the summands. -/
def termNames (ts : List (Sign × Term)) : List String := ts.filterMap (·.2.name?)

/-- The words for numbers in the summands. -/
def termNumbers (ts : List (Sign × Term)) : List String := ts.filterMap (·.2.number?)

/-- The names of registers in the operand. -/
def names : Phrase → List String
  | .register name => [name]
  | .memory _ segment first more => segment.toList ++ termNames (summands first more)
  | _ => []

/-- The words for numbers in the operand. -/
def numbers : Phrase → List String
  | .number _ text | .shortBranch text => [text]
  | .memory _ _ first more => termNumbers (summands first more)
  | _ => []

/-- What an operand stands for by itself. No number in it is too long. -/
inductive Reads : Phrase → Draft → Prop where
  | register {name : String} (h : IsRegister name) :
      Reads (.register name) (.register (registerOf name))
  | number (sign : Option Sign) {text : String} (h : ¬TooLong text.toList) :
      Reads (.number sign text) (.immediate ((sign.getD .plus).apply (spelled text.toList)))
  | shortBranch {text : String} (h : ¬TooLong text.toList) :
      Reads (.shortBranch text) (.shortBranch (spelled text.toList))
  | decorator {text : String} {r : Rounding} (h : readRounding text = .ok r) :
      Reads (.decorator text) (.rounding r)
  | memory {size segment : Option String} {first : Term} {more : List (Sign × Term)}
      {place : MemoryPlace} (hnames : ∀ name ∈ names (.memory size segment first more), IsRegister name)
      (hnumbers : ∀ text ∈ termNumbers (summands first more), ¬TooLong text.toList)
      (hplace : (readings (summands first more)).foldlM MemoryPlace.add
        { size := size.elim 0 memorySize, segment := .register (segment.elim .none registerOf) } =
          .ok place) :
      Reads (.memory size segment first more) (.memory place)

theorem Reads.not_tooLong {p : Phrase} {d : Draft} (h : p.Reads d) :
    ∀ text ∈ p.numbers, ¬TooLong text.toList := by
  cases h with
  | register | decorator => exact nofun
  | number _ h | shortBranch h => exact List.forall_mem_singleton.mpr h
  | memory _ h _ => exact h

/-- The words of the operand can be converted, if no number is too long. No decorator has a long s. -/
structure Convertible (p : Phrase) : Prop where
  fits : p.Fits
  letters : ∀ text, p = .decorator text → '\u017f' ∉ text.toList

/-- The words of the operand can be converted, if no number is too long, and it does not name the absent
register. -/
structure Regular (p : Phrase) : Prop extends Convertible p where
  present : ∀ name ∈ p.names, Text.upper name ≠ "NONE"

section Terms
variable {ts : List (Sign × Term)} {vs : List (Sign × TermValue)}

theorem forall_termNames {P : String → Prop} :
    (∀ name ∈ termNames ts, P name) ↔ ∀ t ∈ ts, ∀ name ∈ t.2.name?, P name := by
  simp only [termNames, List.mem_filterMap]
  constructor
  · exact fun h t ht name hname => h name ⟨t, ht, hname⟩
  · exact fun h name ⟨t, ht, hname⟩ => h t ht name hname

theorem forall_termNumbers {P : String → Prop} :
    (∀ text ∈ termNumbers ts, P text) ↔ ∀ t ∈ ts, ∀ text ∈ t.2.number?, P text := by
  simp only [termNumbers, List.mem_filterMap]
  constructor
  · exact fun h t ht text htext => h text ⟨t, ht, htext⟩
  · exact fun h text ⟨t, ht, htext⟩ => h t ht text htext

private theorem mapM_value (h : ∀ t ∈ ts, t.2.Fits) :
    (ts.mapM fun (sign, term) => term.value.map (sign, ·)) = .ok vs ↔
      (∀ name ∈ termNames ts, IsRegister name) ∧
        (∀ text ∈ termNumbers ts, ¬TooLong text.toList) ∧ readings ts = vs := by
  rw [forall_termNames, forall_termNumbers]
  induction ts generalizing vs with
  | nil =>
    rw [List.mapM_nil, and_iff_right (by simp), and_iff_right (by simp)]
    exact ⟨Except.ok.inj, congrArg Except.ok⟩
  | cons t ts ih =>
    obtain ⟨hfirst, hrest⟩ := List.forall_mem_cons.mp h
    rw [List.mapM_cons, List.forall_mem_cons, List.forall_mem_cons, bind_eq_ok]
    simp only [map_eq_ok, Term.value_eq_ok hfirst, bind_eq_ok, ih hrest]
    constructor
    · rintro ⟨_, ⟨_, ⟨hname, hnumber, rfl⟩, rfl⟩, _, ⟨hnames, hnumbers, rfl⟩, hvs⟩
      exact ⟨⟨hname, hnames⟩, ⟨hnumber, hnumbers⟩, Except.ok.inj hvs⟩
    · rintro ⟨⟨hname, hnames⟩, ⟨hnumber, hnumbers⟩, rfl⟩
      exact ⟨_, ⟨_, ⟨hname, hnumber, rfl⟩, rfl⟩, _, ⟨hnames, hnumbers, rfl⟩, rfl⟩

theorem present_readings (hnames : ∀ name ∈ termNames ts, IsRegister name)
    (hpresent : ∀ name ∈ termNames ts, Text.upper name ≠ "NONE") :
    Summands.Present (readings ts) := by
  rw [forall_termNames] at hnames hpresent
  intro v hv r hr
  obtain ⟨⟨sign, t⟩, ht, rfl⟩ := List.mem_map.mp hv
  have hne (name : String) (hname : name ∈ t.name?) : registerOf name ≠ .none :=
    registerOf_ne_none (hnames _ ht name hname) (hpresent _ ht name hname)
  cases t with
  | register name | scaled name =>
    rw [← Option.mem_some_iff.mp hr]
    exact hne name rfl
  | number => cases hr

/-- What the summands add up to, if they do not name the absent register. -/
theorem foldlM_readings_eq_ok {size : Int} {segment : Register} {place : MemoryPlace}
    (hnames : ∀ name ∈ termNames ts, IsRegister name)
    (hpresent : ∀ name ∈ termNames ts, Text.upper name ≠ "NONE") :
    (readings ts).foldlM MemoryPlace.add { size, segment } = .ok place ↔
      Summands.Addable (readings ts) ∧ Summands.total size segment (readings ts) = place :=
  Summands.foldlM_add_eq_ok (present_readings hnames hpresent)

end Terms

private theorem segment_eq_ok {segment : Option String} {r : Register} :
    segment.elim (.ok .none) readRegister = .ok r ↔
      (∀ name ∈ segment, IsRegister name) ∧ segment.elim .none registerOf = r := by
  cases segment <;> simp [readRegister_iff]

private theorem memory_draft_eq_ok {size segment : Option String} {first : Term}
    {more : List (Sign × Term)} {d : Draft} (h : (Phrase.memory size segment first more).Fits) :
    (Phrase.memory size segment first more).draft = .ok d ↔
      (Phrase.memory size segment first more).Reads d := by
  obtain ⟨-, hfirst, hmore⟩ := h
  have hnames : (∀ name ∈ names (.memory size segment first more), IsRegister name) ↔
      (∀ name ∈ segment, IsRegister name) ∧ (∀ name ∈ first.name?, IsRegister name) ∧
        ∀ name ∈ termNames more, IsRegister name := by
    rw [names, List.forall_mem_append, forall_termNames, forall_termNames, summands,
      List.forall_mem_cons]
    simp
  have hnumbers : (∀ text ∈ termNumbers (summands first more), ¬TooLong text.toList) ↔
      (∀ text ∈ first.number?, ¬TooLong text.toList) ∧
        ∀ text ∈ termNumbers more, ¬TooLong text.toList := by
    rw [forall_termNumbers, forall_termNumbers, summands, List.forall_mem_cons]
  constructor
  · intro hd
    obtain ⟨r, hr, hd⟩ := bind_eq_ok.mp hd
    obtain ⟨v, hv, hd⟩ := bind_eq_ok.mp hd
    obtain ⟨vs, hvs, hd⟩ := bind_eq_ok.mp hd
    obtain ⟨place, hplace, hmemory⟩ := bind_eq_ok.mp hd
    obtain ⟨hsegment, rfl⟩ := segment_eq_ok.mp hr
    obtain ⟨hname, hnumber, rfl⟩ := (Term.value_eq_ok hfirst).mp hv
    obtain ⟨hterms, hothers, rfl⟩ := (mapM_value hmore).mp hvs
    cases hmemory
    exact .memory (hnames.mpr ⟨hsegment, hname, hterms⟩) (hnumbers.mpr ⟨hnumber, hothers⟩) hplace
  · intro hd
    cases hd with
    | memory hall hshort hplace =>
      obtain ⟨hsegment, hname, hterms⟩ := hnames.mp hall
      obtain ⟨hnumber, hothers⟩ := hnumbers.mp hshort
      refine bind_eq_ok.mpr ⟨_, segment_eq_ok.mpr ⟨hsegment, rfl⟩, ?_⟩
      refine bind_eq_ok.mpr ⟨_, (Term.value_eq_ok hfirst).mpr ⟨hname, hnumber, rfl⟩, ?_⟩
      refine bind_eq_ok.mpr ⟨_, (mapM_value hmore).mpr ⟨hterms, hothers, rfl⟩, ?_⟩
      exact bind_eq_ok.mpr ⟨_, hplace, rfl⟩

/-- What an operand stands for is its draft. -/
theorem draft_eq_ok {p : Phrase} {d : Draft} (h : p.Fits) : p.draft = .ok d ↔ p.Reads d := by
  cases p with
  | register name =>
    rw [draft, map_eq_ok]
    constructor
    · rintro ⟨r, hr, rfl⟩
      obtain ⟨hname, rfl⟩ := readRegister_iff.mp hr
      exact .register hname
    · rintro ⟨hname⟩
      exact ⟨_, readRegister_iff.mpr ⟨hname, rfl⟩, rfl⟩
  | number sign text =>
    have hdraft : (Phrase.number sign text).draft =
        (numberValue text).map fun n => .immediate ((sign.getD .plus).apply n) := by
      rcases sign with _ | _ | _ <;> rfl
    rw [hdraft, map_eq_ok]
    constructor
    · rintro ⟨n, hn, rfl⟩
      obtain ⟨hshort, rfl⟩ := (numberValue_eq_ok h).mp hn
      exact .number sign hshort
    · rintro ⟨⟩
      next hshort => exact ⟨_, (numberValue_eq_ok h).mpr ⟨hshort, rfl⟩, rfl⟩
  | shortBranch text =>
    rw [draft, map_eq_ok]
    constructor
    · rintro ⟨n, hn, rfl⟩
      obtain ⟨hshort, rfl⟩ := (numberValue_eq_ok h).mp hn
      exact .shortBranch hshort
    · rintro ⟨⟩
      next hshort => exact ⟨_, (numberValue_eq_ok h).mpr ⟨hshort, rfl⟩, rfl⟩
  | decorator text =>
    rw [draft, map_eq_ok]
    constructor
    · rintro ⟨r, hr, rfl⟩
      exact .decorator hr
    · rintro ⟨⟩
      next r hr => exact ⟨r, hr, rfl⟩
  | memory size segment first more => exact memory_draft_eq_ok h

end Phrase

/-- When a sentence stands for an instruction, from what its operands stand for. -/
theorem Sentence.instruction_iff_reads {s : Sentence} {i : Instruction}
    (h : ∀ p ∈ s.operands, p.phrase.Fits) :
    s.instruction = .ok i ↔ ∃ (ds : List (Draft × Bool)) (size : Int) (os : List (Option Operand)),
      List.Forall₂ (fun p d => p.phrase.Reads d.1 ∧ p.implicit = d.2) s.operands ds ∧
      (ds.filterMap fun d => d.1.rounding?).length ≤ 1 ∧
      Draft.immediateSize (ds.map Prod.fst) = .ok size ∧
      List.Forall₂ (fun d o => Draft.Becomes (Text.lower s.mnemonic) size d.2 d.1 o) ds os ∧
      i = { mnemonic := Text.lower s.mnemonic, operands := os.filterMap id,
            prefixes := prefixMask s.prefixes,
            rounding := (ds.filterMap fun d => d.1.rounding?).head? } := by
  have hreads (ds : List (Draft × Bool)) :
      List.Forall₂ (fun p d => p.phrase.draft = .ok d.1 ∧ p.implicit = d.2) s.operands ds ↔
        List.Forall₂ (fun p d => p.phrase.Reads d.1 ∧ p.implicit = d.2) s.operands ds := by
    constructor
    · intro hds
      exact ((List.forall₂_and_left _ _).mpr ⟨h, hds⟩).imp fun p d hpd =>
        ⟨(Phrase.draft_eq_ok hpd.1).mp hpd.2.1, hpd.2.2⟩
    · intro hds
      exact ((List.forall₂_and_left _ _).mpr ⟨h, hds⟩).imp fun p d hpd =>
        ⟨(Phrase.draft_eq_ok hpd.1).mpr hpd.2.1, hpd.2.2⟩
  simp only [instruction_eq_ok, hreads]

/-- A lexeme holds no character that the text does not hold. -/
theorem Lexeme.IsSplit.subset {text : String} {ls : List Lexeme} {l : Lexeme}
    (h : Lexeme.IsSplit text ls) (hl : l ∈ ls) : l.text.toList ⊆ text.toList :=
  fun c hc => Text.trim_subset _ ((h.1.fits l hl).2 c hc)

/-- The words that a text is cut into fit their places. -/
theorem Sentence.Derives.fits {text : String} {ls : List Lexeme} {s : Sentence} (h : s.Derives ls)
    (hsplit : Lexeme.IsSplit text ls) : ∀ p ∈ s.operands, p.phrase.Fits := by
  intro p hp
  obtain ⟨ms, hms, hp⟩ := h.exists_derives hp
  exact hp.fits fun l hl => (hsplit.1.fits l (hms hl)).1

end AsmListing
