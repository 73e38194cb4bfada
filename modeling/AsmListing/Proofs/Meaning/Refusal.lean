import Mathlib
import AsmListing.Proofs.Meaning.Readings

/-! With what the reading of a sentence fails. Every word that the grammar lets through can be
converted, decorators with a long s and numbers that are too long apart. So a sentence is refused for
what it says, unless a number is too long to be shown in the reason. -/
namespace AsmListing
open Outcome
open Numeral (spelled TooLong)

theorem Text.isSome_decimal? {n : Int} : (Text.decimal? n).isSome ↔ ¬Text.Overlong n.natAbs := by
  rw [Text.decimal?]
  split <;> simp_all

namespace MeaningError

/-- The error quotes no word of the text. -/
def isUnquoted : MeaningError → Bool
  | .unknownRegister _ | .unknownRounding _ | .literal _ => false
  | _ => true

/-- The error comes from the word for a number. The word has too many digits to be read, or the number
has too many to be shown as a negative target or a scale. -/
def FromLongNumber (e : MeaningError) (word : String) : Prop :=
  TooLong word.toList ∧ e = .literal (.overlong word.toList.length) ∨
    Text.Overlong (spelled word.toList) ∧
      (e = .negativeTarget (-(spelled word.toList : Int)) ∨ e = .argument (.scale (spelled word.toList)))

theorem FromLongNumber.not_isRefusal {e : MeaningError} {word : String} (h : e.FromLongNumber word) :
    ¬e.isRefusal := by
  rcases h with ⟨-, rfl⟩ | ⟨hlong, rfl | rfl⟩
  · exact Bool.false_ne_true
  all_goals simp [isRefusal, message, ArgumentError.message, Text.decimal?, hlong]

/-- The sentence is refused, or one of its numbers is too long. -/
def Justified (numbers : List String) (e : MeaningError) : Prop :=
  e.isRefusal ∨ ∃ word ∈ numbers, e.FromLongNumber word

theorem Justified.mono {numbers more : List String} {e : MeaningError} (h : e.Justified numbers)
    (hsub : numbers ⊆ more) : e.Justified more :=
  h.imp_right fun ⟨word, hword, he⟩ => ⟨word, hsub hword, he⟩

end MeaningError

open MeaningError (Justified)

section Words
variable {numbers : List String}

private theorem onlyFails_readRegister (name : String) :
    OnlyFails (Justified numbers) (readRegister name) := by
  rw [readRegister]
  split
  · exact onlyFails_ok _
  · exact onlyFails_error (.inl rfl)

private theorem onlyFails_numberValue {text : String} (h : Terminal.isNumber text.toList)
    (hmem : text ∈ numbers) : OnlyFails (Justified numbers) (numberValue text) := by
  rw [numberValue_of_isNumber h]
  split
  · next hlong => exact onlyFails_error (.inr ⟨text, hmem, .inl ⟨hlong, rfl⟩⟩)
  · exact onlyFails_ok _

private theorem Term.onlyFails_value {t : Term} (h : t.Fits) (hmem : ∀ text ∈ t.number?, text ∈ numbers) :
    OnlyFails (Justified numbers) t.value := by
  cases t with
  | register name => exact (onlyFails_readRegister name).map
  | scaled name factor =>
    refine (onlyFails_readRegister name).bind fun r => ?_
    exact (onlyFails_numberValue h (hmem factor rfl)).bind fun n => onlyFails_ok _
  | number text => exact (onlyFails_numberValue h (hmem text rfl)).map

end Words

/-- The summands are added up without a look at the text. -/
theorem MemoryPlace.onlyFails_add (place : MemoryPlace) (x : Sign × TermValue) :
    OnlyFails (fun e => e.isUnquoted ∧ e.isRefusal) (place.add x) := by
  fun_cases MemoryPlace.add place x
  all_goals first | exact onlyFails_ok _ | exact onlyFails_error ⟨rfl, rfl⟩

/-- A memory operand is refused, or one of its numbers is too long. -/
private theorem Phrase.onlyFails_draft_memory {size segment : Option String} {first : Term}
    {more : List (Sign × Term)} (hfirst : first.Fits) (hmore : ∀ t ∈ more, t.2.Fits) :
    OnlyFails (Justified (termNumbers (summands first more)))
      (Phrase.memory size segment first more).draft := by
  have hmem := (@forall_termNumbers (summands first more) (· ∈ termNumbers (summands first more))).mp
    fun _ => id
  obtain ⟨hmemFirst, hmemMore⟩ := List.forall_mem_cons.mp hmem
  have hsegment : OnlyFails (Justified (termNumbers (summands first more)))
      (segment.elim (.ok .none) readRegister) := by
    cases segment with
    | none => exact onlyFails_ok _
    | some name => exact onlyFails_readRegister name
  refine hsegment.bind fun r => (Term.onlyFails_value hfirst hmemFirst).bind fun v => ?_
  refine (onlyFails_mapM fun t ht => (Term.onlyFails_value (hmore t ht) (hmemMore t ht)).map).bind
    fun vs => ?_
  have hsum := onlyFails_foldlM MemoryPlace.onlyFails_add ((.plus, v) :: vs)
  exact ((hsum _).imp fun _ he => .inl he.2).bind fun place => onlyFails_ok _

/-- An operand is refused, has a number that is too long, or is a decorator with a long s. -/
theorem Phrase.onlyFails_draft {p : Phrase} (h : p.Fits) :
    OnlyFails (fun e => e.Justified p.numbers ∨ ∃ text, p = .decorator text ∧ '\u017f' ∈ text.toList ∧
      readRounding text = .error e) p.draft := by
  cases p with
  | register name => exact (onlyFails_readRegister name).map.imp fun _ => .inl
  | number sign text =>
    have hvalue := onlyFails_numberValue h (List.mem_singleton_self text)
    rcases sign with _ | _ | _ <;> exact hvalue.map.imp fun _ => .inl
  | shortBranch text =>
    exact (onlyFails_numberValue h (List.mem_singleton_self text)).map.imp fun _ => .inl
  | decorator text =>
    rw [draft]
    apply OnlyFails.map
    intro e he
    refine .inr ⟨text, rfl, by_contra fun hs => ?_, he⟩
    obtain ⟨r, hr⟩ := exists_readRounding h hs
    cases hr.symm.trans he
  | memory size segment first more =>
    obtain ⟨-, hfirst, hmore⟩ := h
    exact (onlyFails_draft_memory hfirst hmore).imp fun _ => .inl

/-- Small numbers can be shown in messages. -/
private theorem isSome_decimal?_of_bounds {n : Int} (h : 0 ≤ n ∧ n ≤ 16) : (Text.decimal? n).isSome :=
  Text.isSome_decimal?.mpr (Text.not_overlong_of_lt (by omega))

/-- A place as a text asks for it. Its size is one that a message can show, its registers are such, and
its scale is one or a factor of the text. -/
structure MemoryPlace.Asked (factors : List Int) (place : MemoryPlace) : Prop where
  size : 0 ≤ place.size ∧ place.size ≤ 16
  base : ∃ r : Register, place.base = r
  index : ∃ r : Register, place.index = r
  segment : ∃ r : Register, place.segment = r
  scale : place.scale = 1 ∨ place.scale ∈ factors

/-- Another summand leaves the place one that a text asks for. -/
private theorem MemoryPlace.Asked.add {factors : List Int} {place place' : MemoryPlace}
    (h : place.Asked factors) {x : Sign × TermValue} (hx : ∀ r n, x.2 = .scaled r n → n ∈ factors)
    (hadd : place.add x = .ok place') : place'.Asked factors := by
  obtain ⟨hsize, hbase, hindex, hsegment, hscale⟩ := h
  revert hadd
  fun_cases MemoryPlace.add place x with
  | case1 | case2 =>
    rintro ⟨⟩
    exact ⟨hsize, hbase, hindex, hsegment, hscale⟩
  | case5 r =>
    rintro ⟨⟩
    exact ⟨hsize, ⟨r, rfl⟩, hindex, hsegment, hscale⟩
  | case6 r =>
    rintro ⟨⟩
    exact ⟨hsize, hbase, ⟨r, rfl⟩, hsegment, .inl rfl⟩
  | case8 r factor =>
    rintro ⟨⟩
    exact ⟨hsize, hbase, ⟨r, rfl⟩, hsegment, .inr (hx r factor rfl)⟩
  | case3 | case4 | case7 | case9 => exact nofun

namespace Operand
variable {factors : List Int} {place : MemoryPlace} (access : Access) (implicit : Bool)

private theorem onlyFails_checkSize {size : Int} {allowed : List Int} (hsize : 0 ≤ size ∧ size ≤ 16)
    (hallowed : (allowed.mapM Text.decimal?).isSome) :
    OnlyFails (fun e => e.message.isSome) (checkSize allowed size) := by
  refine onlyFails_ite (fun _ => onlyFails_ok _) fun _ => onlyFails_error ?_
  obtain ⟨shown, hshown⟩ := Option.isSome_iff_exists.mp (isSome_decimal?_of_bounds hsize)
  obtain ⟨texts, htexts⟩ := Option.isSome_iff_exists.mp hallowed
  rw [ArgumentError.message, hshown, htexts]
  rfl

private theorem onlyFails_ofMemory (h : place.Asked factors) :
    OnlyFails (fun e => e.message.isSome ∨
      place.scale ∈ factors ∧ Text.Overlong place.scale.natAbs ∧ e = .scale place.scale)
      (Operand.ofMemory place access implicit) := by
  obtain ⟨hsize, ⟨base, hbase⟩, ⟨index, hindex⟩, ⟨segment, hsegment⟩, hscale⟩ := h
  rw [ofMemory, hbase, hindex, hsegment]
  refine onlyFails_guard (fun _ => (onlyFails_checkSize hsize rfl).imp fun _ => .inl) ?_
  refine onlyFails_guard (fun hbad => onlyFails_error ?_) ?_
  · by_cases hlong : Text.Overlong place.scale.natAbs
    · refine .inr ⟨hscale.resolve_left fun hone => ?_, hlong, rfl⟩
      simp [hone] at hbad
    · exact .inl (by simpa [ArgumentError.message] using Text.isSome_decimal?.mpr hlong)
  · refine (onlyFails_ok base).bind fun _ => (onlyFails_ok index).bind fun _ => ?_
    refine (onlyFails_ok segment).bind fun r => ?_
    refine onlyFails_guard (fun _ => onlyFails_error (.inl rfl)) ?_
    exact onlyFails_ite (fun _ => onlyFails_ok _) fun _ => onlyFails_error (.inl rfl)

private theorem onlyFails_ofRegister (r : Register) :
    OnlyFails (fun e => e.message.isSome) (Operand.ofRegister r access implicit) := by
  refine onlyFails_ite (fun _ => onlyFails_error rfl) fun _ => ?_
  refine OnlyFails.bind ?_ fun _ => onlyFails_ok _
  rw [Register.width]
  split
  · exact onlyFails_ok _
  · exact onlyFails_error rfl

private theorem onlyFails_ofImmediate {value size : Int} (hsize : 0 ≤ size ∧ size ≤ 16) :
    OnlyFails (fun e => e.message.isSome) (Operand.ofImmediate value size) := by
  refine (onlyFails_checkSize hsize rfl).bind fun _ => ?_
  refine onlyFails_ite (fun _ => onlyFails_ok _) fun _ => onlyFails_error ?_
  obtain ⟨shown, hshown⟩ := Option.isSome_iff_exists.mp (isSome_decimal?_of_bounds hsize)
  rw [ArgumentError.message, hshown]
  rfl

private theorem onlyFails_ofTarget {target : Int} {short : Bool} :
    OnlyFails (fun e => e.message.isSome) (Operand.ofTarget target 8 short) :=
  onlyFails_ite (fun _ => onlyFails_ok _) fun _ => onlyFails_error rfl

end Operand

theorem memorySize_bounds (text : String) : 0 ≤ memorySize text ∧ memorySize text ≤ 16 := by
  rw [memorySize]
  split <;> decide

namespace Phrase.Reads
variable {p : Phrase} {d : Draft} {mnemonic : String} {size : Int} {implicit : Bool}

/-- The place that an operand stands for is one that its text asks for. -/
private theorem asked {place : MemoryPlace} (h : p.Reads (.memory place)) :
    place.Asked (p.numbers.map fun word => (spelled word.toList : Int)) := by
  cases h with
  | @memory size segment first more place hnames hnumbers hplace =>
    have hsize : 0 ≤ size.elim 0 memorySize ∧ size.elim 0 memorySize ≤ 16 := by
      cases size with
      | none => decide
      | some text =>
        rw [Option.elim_some]
        exact memorySize_bounds text
    refine foldlM_keeps (fun x hx a b ha hb => ha.add (fun r n hn => ?_) hb) ?_ hplace
    · exact ⟨hsize, ⟨_, rfl⟩, ⟨_, rfl⟩, ⟨_, rfl⟩, .inl rfl⟩
    · obtain ⟨t, ht, rfl⟩ := List.mem_map.mp hx
      obtain ⟨sign, name | ⟨name, factor⟩ | text⟩ := t
      · cases hn
      · cases hn
        have hmem : factor ∈ termNumbers (summands first more) :=
          List.mem_filterMap.mpr ⟨_, ht, rfl⟩
        exact List.mem_map_of_mem (f := fun word : String => (spelled word.toList : Int)) hmem
      · cases hn

/-- A target is refused, or it is negative and too long to be shown. -/
private theorem onlyFails_branchOperand {numbers : List String} {target : Int} {short : Bool}
    (h : target < 0 → ∃ word ∈ numbers, target = -(spelled word.toList : Int)) :
    OnlyFails (Justified numbers) (Draft.branchOperand target short) := by
  refine onlyFails_ite (fun hneg => onlyFails_error ?_) fun _ =>
    Operand.onlyFails_ofTarget.mapError fun _ => .inl
  obtain ⟨word, hword, rfl⟩ := h hneg
  by_cases hlong : Text.Overlong (spelled word.toList)
  · exact .inr ⟨word, hword, .inr ⟨hlong, .inl rfl⟩⟩
  · have hshown : (Text.decimal? (-(spelled word.toList : Int))).isSome :=
      Text.isSome_decimal?.mpr (by simpa using hlong)
    exact .inl (by simpa [MeaningError.isRefusal, MeaningError.message] using hshown)

/-- An operand that was read by itself is refused in its place, or one of its numbers is too long to be
shown. -/
private theorem onlyFails_operand (h : p.Reads d) (hsize : 0 ≤ size ∧ size ≤ 16) :
    OnlyFails (Justified p.numbers) (d.operand mnemonic size implicit) := by
  cases h with
  | register => exact ((Operand.onlyFails_ofRegister _ _ _).mapError fun _ => .inl).map
  | @number sign text =>
    refine onlyFails_ite (fun _ => onlyFails_error (.inl rfl)) fun _ => ?_
    refine onlyFails_ite (fun _ => ?_) fun _ => ?_
    · apply OnlyFails.map
      apply onlyFails_branchOperand
      intro hneg
      refine ⟨text, List.mem_singleton_self text, ?_⟩
      rcases sign with _ | _ | _
      · exact absurd hneg (by simp [Sign.apply])
      · exact absurd hneg (by simp [Sign.apply])
      · simp [Sign.apply]
    · exact ((Operand.onlyFails_ofImmediate hsize).mapError fun _ => .inl).map
  | @shortBranch text =>
    refine onlyFails_ite (fun _ => onlyFails_error (.inl rfl)) fun _ => ?_
    exact (onlyFails_branchOperand fun hneg => absurd hneg (by simp)).map
  | decorator => exact onlyFails_ok _
  | memory hnames hnumbers hplace =>
    have hasked := (Reads.memory hnames hnumbers hplace).asked
    refine ((Operand.onlyFails_ofMemory _ _ hasked).mapError ?_).map
    rintro e (hshown | ⟨hscale, hlong, rfl⟩)
    · exact .inl hshown
    · obtain ⟨word, hword, heq⟩ := List.mem_map.mp hscale
      rw [← heq, Int.natAbs_natCast] at hlong
      exact .inr ⟨word, hword, .inr ⟨hlong, .inr (heq ▸ rfl)⟩⟩

end Phrase.Reads

namespace Draft

/-- Once the operands have been read one by one, no reason quotes a word of the text. -/
private theorem onlyFails_operand (mnemonic : String) (size : Int) (implicit : Bool) (d : Draft) :
    OnlyFails (fun e => e.isUnquoted) (d.operand mnemonic size implicit) := by
  have hargument {α : Type} (x : Except ArgumentError α) :
      OnlyFails (fun e => e.isUnquoted) (x.mapError MeaningError.argument) :=
    onlyFails_mapError fun _ => rfl
  have hbranch (target : Int) (short : Bool) :
      OnlyFails (fun e => e.isUnquoted) (branchOperand target short) :=
    onlyFails_ite (fun _ => onlyFails_error rfl) fun _ => hargument _
  fun_cases Draft.operand mnemonic size implicit d with
  | case1 => exact onlyFails_ok _
  | case2 => exact (hargument _).map
  | case3 => exact (hargument _).map
  | case4 => exact onlyFails_error rfl
  | case5 => exact (hbranch _ _).map
  | case6 => exact onlyFails_error rfl
  | case7 => exact (hbranch _ _).map
  | case8 => exact (hargument _).map

private theorem onlyFails_immediateSize (ds : List Draft) :
    OnlyFails (fun e => ∃ r, e = .unsizedRegister r) (immediateSize ds) := by
  fun_induction immediateSize ds with
  | case1 => exact onlyFails_ok _
  | case2 r =>
    apply OnlyFails.map
    rw [Register.width]
    split
    · exact onlyFails_ok _
    · exact onlyFails_error ⟨r, rfl⟩
  | case3 _ _ _ ih => exact ih
  | case4 => exact onlyFails_ok _
  | case5 _ _ _ _ ih => exact ih

private theorem immediateSize_bounds {ds : List Draft} {size : Int}
    (h : ∀ place, Draft.memory place ∈ ds → 0 ≤ place.size) (hsize : immediateSize ds = .ok size) :
    0 ≤ size ∧ size ≤ 16 := by
  fun_induction immediateSize ds with
  | case1 =>
    cases hsize
    decide
  | case2 r =>
    obtain ⟨_, hn, rfl⟩ := map_eq_ok.mp hsize
    obtain ⟨k, -, hk⟩ := bind_eq_ok.mp hn
    cases hk
    omega
  | case3 place rest hzero ih => exact ih (fun q hq => h q (List.mem_cons_of_mem _ hq)) hsize
  | case4 place rest hsized =>
    cases hsize
    have hplace := h place List.mem_cons_self
    omega
  | case5 d rest _ _ ih => exact ih (fun q hq => h q (List.mem_cons_of_mem _ hq)) hsize

end Draft

namespace Sentence
variable {s : Sentence}

/-- A sentence fails as one of its operands does, for two rounding controls, or for a register without
a size. -/
theorem onlyFails_instruction {P : MeaningError → Prop}
    (hdraft : ∀ p ∈ s.operands, OnlyFails P p.phrase.draft) (hrounding : P .repeatedRounding)
    (hwidth : ∀ r, P (.argument (.unsizedRegister r)))
    (hoperand : ∀ drafts size,
      s.operands.mapM (fun p => p.phrase.draft.map (·, p.implicit)) = .ok drafts →
      Draft.immediateSize (drafts.map Prod.fst) = .ok size →
      ∀ d ∈ drafts, OnlyFails P (d.1.operand (Text.lower s.mnemonic) size d.2)) :
    OnlyFails P s.instruction := by
  rw [instruction]
  refine (onlyFails_mapM fun p hp => (hdraft p hp).map).bind_of_eq_ok fun drafts hdrafts => ?_
  refine onlyFails_ite (fun _ => onlyFails_error hrounding) fun _ => ?_
  have hsize : OnlyFails P ((Draft.immediateSize (drafts.map Prod.fst)).mapError .argument) := by
    refine (Draft.onlyFails_immediateSize _).mapError fun e he => ?_
    obtain ⟨r, rfl⟩ := he
    exact hwidth r
  refine hsize.bind_of_eq_ok fun size hsize => ?_
  refine OnlyFails.bind ?_ fun operands => onlyFails_ok _
  exact onlyFails_mapM (hoperand drafts size hdrafts (mapError_eq_ok.mp hsize))

/-- If only the reading of single operands fails with a quote, so does that of the sentence. -/
theorem onlyFails_instruction_of_isUnquoted {P : MeaningError → Prop} (hP : ∀ e, e.isUnquoted → P e)
    (h : ∀ p ∈ s.operands, OnlyFails P p.phrase.draft) : OnlyFails P s.instruction :=
  onlyFails_instruction h (hP _ rfl) (fun _ => hP _ rfl) fun _ _ _ _ d _ =>
    (Draft.onlyFails_operand _ _ _ d.1).imp hP

/-- The words for numbers in the sentence. -/
def numbers (s : Sentence) : List String := s.operands.flatMap (·.phrase.numbers)

/-- A sentence is refused, has a number that is too long, or has a decorator with a long s. -/
theorem onlyFails_instruction_of_fits (h : ∀ p ∈ s.operands, p.phrase.Fits) :
    OnlyFails (fun e => e.Justified s.numbers ∨ ∃ p ∈ s.operands, ∃ text, p.phrase = .decorator text ∧
      '\u017f' ∈ text.toList ∧ readRounding text = .error e) s.instruction := by
  have hnumbers {p : OperandPhrase} (hp : p ∈ s.operands) : p.phrase.numbers ⊆ s.numbers :=
    fun _ hword => List.mem_flatMap.mpr ⟨p, hp, hword⟩
  refine onlyFails_instruction (fun p hp => ?_) (.inl (.inl rfl)) (fun _ => .inl (.inl rfl))
    fun drafts size hdrafts hsize d hd => ?_
  · refine (Phrase.onlyFails_draft (h p hp)).imp fun e he => ?_
    exact he.imp (fun hjustified => hjustified.mono (hnumbers hp)) fun hs => ⟨p, hp, hs⟩
  · have hreads {d : Draft × Bool} (hd : d ∈ drafts) : ∃ p ∈ s.operands, p.phrase.Reads d.1 := by
      obtain ⟨p, hp, hmapped⟩ := exists_of_forall₂ (mapM_eq_ok.mp hdrafts) hd
      obtain ⟨_, hdraft, rfl⟩ := map_eq_ok.mp hmapped
      exact ⟨p, hp, (Phrase.draft_eq_ok (h p hp)).mp hdraft⟩
    have hbounds : 0 ≤ size ∧ size ≤ 16 := by
      refine Draft.immediateSize_bounds (fun place hplace => ?_) hsize
      obtain ⟨d, hd, heq⟩ := List.mem_map.mp hplace
      obtain ⟨p, -, hp⟩ := hreads hd
      rw [heq] at hp
      exact hp.asked.size.1
    obtain ⟨p, hp, hread⟩ := hreads hd
    exact (hread.onlyFails_operand hbounds).imp fun e he => .inl (he.mono (hnumbers hp))

end Sentence
end AsmListing
