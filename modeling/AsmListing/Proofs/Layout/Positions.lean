import Mathlib
import AsmListing.Layout
import AsmListing.Proofs.Outcome

/-! Which layouts can be built, and how their two maps between positions and operands belong together.
The check of the slots finds the first faulty one; where there is none, each operand has one position. -/
namespace AsmListing

/-- The operand of the instruction that the slot shows. -/
def Slot.operand? : Slot → Option Int
  | .operand k => some k
  | .synthetic _ => none

namespace Layout
variable {slots earlier rest : List Slot} {s : Slot} {count k : Int} {position : Nat} {e : ArgumentError}

/-- What is wrong with the slot at a position: it refers to no operand of the instruction, or to one
that is shown already. -/
inductive Faulty (slots : List Slot) (count : Int) (position : Nat) : ArgumentError → Prop where
  | range {k : Int} (hslot : slots[position]? = some (.operand k)) (hk : k < 0 ∨ count ≤ k) :
      Faulty slots count position (.slotRange position k count)
  | repeated {k : Int} {first : Nat} (hslot : slots[position]? = some (.operand k))
      (hk : 0 ≤ k ∧ k < count) (hfirst : slots.idxOf? (.operand k) = some first)
      (hlt : first < position) : Faulty slots count position (.slotRepeated k first position)

/-- The fault at the first position that has one. -/
def FirstFault (slots : List Slot) (count : Int) (start : Nat) (e : ArgumentError) : Prop :=
  ∃ p, start ≤ p ∧ Faulty slots count p e ∧ ∀ q, start ≤ q → q < p → ∀ e', ¬Faulty slots count q e'

theorem Faulty.lt_length (h : Faulty slots count position e) : position < slots.length := by
  cases h with
  | range hslot => exact (List.getElem?_eq_some_iff.mp hslot).1
  | repeated hslot => exact (List.getElem?_eq_some_iff.mp hslot).1

theorem Faulty.unique {e' : ArgumentError} (h : Faulty slots count position e)
    (h' : Faulty slots count position e') : e = e' := by
  cases h with
  | range hslot hk =>
    cases h' with
    | range hslot' =>
      cases hslot.symm.trans hslot'
      rfl
    | repeated hslot' hk' =>
      cases hslot.symm.trans hslot'
      omega
  | repeated hslot hk hfirst =>
    cases h' with
    | range hslot' hk' =>
      cases hslot.symm.trans hslot'
      omega
    | repeated hslot' _ hfirst' =>
      cases hslot.symm.trans hslot'
      cases hfirst.symm.trans hfirst'
      rfl

private theorem idxOf?_append_eq_some {first : Nat} (hlt : first < earlier.length) :
    (earlier ++ rest).idxOf? s = some first ↔ earlier.idxOf? s = some first := by
  simp only [List.idxOf?, List.findIdx?_append, Option.or_eq_some_iff, Option.map_eq_some_iff]
  constructor
  · rintro (h | ⟨-, n, -, hn⟩)
    · exact h
    · omega
  · exact .inl

/-- One step of the check: it stops at a faulty slot and passes over any other. -/
private theorem check_step (count : Int) (earlier : List Slot) (s : Slot) (rest : List Slot) :
    (∃ e, Faulty (earlier ++ s :: rest) count earlier.length e ∧
      check count earlier (s :: rest) = .error e) ∨
    ((∀ e, ¬Faulty (earlier ++ s :: rest) count earlier.length e) ∧
      check count earlier (s :: rest) = check count (earlier ++ [s]) rest) := by
  have hslot : (earlier ++ s :: rest)[earlier.length]? = some s := by simp
  cases s with
  | synthetic op =>
    refine .inr ⟨fun e he => ?_, rfl⟩
    cases he with
    | range h => cases hslot.symm.trans h
    | repeated h => cases hslot.symm.trans h
  | operand k =>
    rw [check]
    split
    · next hk => exact .inl ⟨_, .range hslot hk, rfl⟩
    next hk =>
    have hrange : 0 ≤ k ∧ k < count := by omega
    split
    · next first hfirst =>
      obtain ⟨hlt, -⟩ := List.idxOf?_eq_some_iff.mp hfirst
      exact .inl ⟨_, .repeated hslot hrange ((idxOf?_append_eq_some hlt).mpr hfirst) hlt, rfl⟩
    · next hnew =>
      refine .inr ⟨fun e he => ?_, rfl⟩
      cases he with
      | range h hk' =>
        cases hslot.symm.trans h
        exact hk hk'
      | repeated h _ hfirst hlt =>
        cases hslot.symm.trans h
        rw [idxOf?_append_eq_some hlt, hnew] at hfirst
        cases hfirst

/-- The check reports the first fault among the slots that it has not passed yet. -/
private theorem check_eq_error (count : Int) (earlier rest : List Slot) (e : ArgumentError) :
    check count earlier rest = .error e ↔ FirstFault (earlier ++ rest) count earlier.length e := by
  induction rest generalizing earlier with
  | nil =>
    refine ⟨fun h => (nomatch h), fun ⟨p, hp, hfault, _⟩ => ?_⟩
    have := hfault.lt_length
    rw [List.append_nil] at this
    omega
  | cons s rest ih =>
    rcases check_step count earlier s rest with ⟨e₀, hfault, hcheck⟩ | ⟨hclean, hcheck⟩
    · rw [hcheck]
      constructor
      · intro h
        cases h
        exact ⟨_, le_rfl, hfault, fun q hq hlt => absurd hlt (by omega)⟩
      · rintro ⟨p, hp, hp', hbefore⟩
        obtain rfl : p = earlier.length := by
          by_contra hne
          exact hbefore _ le_rfl (by omega) e₀ hfault
        rw [hfault.unique hp']
    · have hstart : FirstFault (earlier ++ s :: rest) count (earlier.length + 1) e ↔
          FirstFault (earlier ++ s :: rest) count earlier.length e := by
        constructor
        · rintro ⟨p, hp, hfault, hbefore⟩
          refine ⟨p, by omega, hfault, fun q hq hlt => ?_⟩
          rcases hq.eq_or_lt with rfl | hq
          · exact hclean
          · exact hbefore q hq hlt
        · rintro ⟨p, hp, hfault, hbefore⟩
          refine ⟨p, ?_, hfault, fun q hq => hbefore q (by omega)⟩
          rcases hp.eq_or_lt with rfl | hp
          · exact absurd hfault (hclean e)
          · exact hp
      rw [hcheck, ih, List.append_assoc, List.length_append, List.length_singleton, List.singleton_append,
        hstart]

theorem build_eq_error : build slots count = .error e ↔ FirstFault slots count 0 e := by
  have hcheck := check_eq_error count [] slots e
  rw [List.nil_append, List.length_nil] at hcheck
  rw [← hcheck, build]
  cases check count [] slots <;> simp [bind, Except.bind, pure, Except.pure]

/-- A layout is built just if no slot is faulty, for the first faulty one would be reported. -/
theorem build_eq_ok {l : Layout} :
    build slots count = .ok l ↔ (∀ p e, ¬Faulty slots count p e) ∧ l = ⟨slots⟩ := by
  cases hbuild : build slots count with
  | ok l' =>
    have hl' : l' = ⟨slots⟩ := by
      rw [build] at hbuild
      obtain ⟨u, -, h⟩ := Outcome.bind_eq_ok.mp hbuild
      exact (Except.ok.inj h).symm
    refine ⟨fun h => ⟨fun p e hfault => ?_, (Except.ok.inj h).symm.trans hl'⟩, fun h => by rw [hl', h.2]⟩
    classical
    have hsome : ∃ p, ∃ e, Faulty slots count p e := ⟨p, e, hfault⟩
    obtain ⟨e', hleast⟩ := Nat.find_spec hsome
    have herror : build slots count = .error e' := build_eq_error.mpr
      ⟨_, Nat.zero_le _, hleast, fun q _ hq e'' hq' => Nat.find_min hsome hq ⟨e'', hq'⟩⟩
    rw [hbuild] at herror
    cases herror
  | error e =>
    obtain ⟨p, -, hfault, -⟩ := build_eq_error.mp hbuild
    exact ⟨fun h => (nomatch h), fun h => absurd hfault (h.1 p e)⟩

/-- Each operand is found at the position that shows it. -/
theorem not_faulty_iff : (∀ p e, ¬Faulty slots count p e) ↔
    ∀ (p : Nat) (k : Int), slots[p]? = some (.operand k) →
      (0 ≤ k ∧ k < count) ∧ slots.idxOf? (.operand k) = some p := by
  constructor
  · intro hclean p k hslot
    have hrange : 0 ≤ k ∧ k < count := by
      by_contra hk
      exact hclean p _ (.range hslot (by omega))
    refine ⟨hrange, ?_⟩
    cases hfirst : slots.idxOf? (.operand k) with
    | none => exact absurd (List.mem_of_getElem? hslot) (List.idxOf?_eq_none_iff.mp hfirst)
    | some first =>
      obtain ⟨hp, hslot'⟩ := List.getElem?_eq_some_iff.mp hslot
      obtain ⟨_, _, hleast⟩ := List.idxOf?_eq_some_iff.mp hfirst
      rcases Nat.lt_trichotomy first p with hlt | rfl | hlt
      · exact absurd (.repeated hslot hrange hfirst hlt) (hclean p _)
      · rfl
      · exact absurd hslot' (hleast p hlt)
  · intro h p e hfault
    cases hfault with
    | range hslot hk =>
      have := (h p _ hslot).1
      omega
    | repeated hslot _ hfirst hlt =>
      cases hfirst.symm.trans (h p _ hslot).2
      omega

theorem nodup_iff : (slots.filterMap Slot.operand?).Nodup ↔
    ∀ (p : Nat) (k : Int), slots[p]? = some (.operand k) → slots.idxOf? (.operand k) = some p := by
  rw [List.Nodup, List.pairwise_filterMap, List.pairwise_iff_getElem]
  constructor
  · intro hdistinct p k hslot
    obtain ⟨hp, hslot⟩ := List.getElem?_eq_some_iff.mp hslot
    refine List.idxOf?_eq_some_iff.mpr ⟨hp, hslot, fun q hq hslot' => ?_⟩
    exact hdistinct q p (hq.trans hp) hp hq k (by rw [hslot']; rfl) k (by rw [hslot]; rfl) rfl
  · intro h q p hq hp hlt k hk k' hk' heq
    have hshows {m : Nat} (hm : m < slots.length) {a : Int} (ha : slots[m].operand? = some a) :
        slots[m] = .operand a := by
      cases hs : slots[m] with
      | operand b =>
        rw [hs] at ha
        rw [Option.some.inj ha]
      | synthetic op =>
        rw [hs] at ha
        cases ha
    have hfirst := h q k (List.getElem?_eq_some_iff.mpr ⟨hq, hshows hq hk⟩)
    have hsecond := h p k' (List.getElem?_eq_some_iff.mpr ⟨hp, hshows hp hk'⟩)
    rw [heq, hsecond] at hfirst
    cases hfirst
    omega

theorem slot?_eq_some {l : Layout} {i : Int} :
    l.slot? i = some s ↔ 0 ≤ i ∧ l.slots[i.toNat]? = some s := by
  rw [slot?]
  split
  · next hneg => exact ⟨fun h => (nomatch h), fun h => absurd h.1 (by omega)⟩
  · next hneg => exact ⟨fun h => ⟨by omega, h⟩, fun h => h.2⟩

theorem slot?_isSome {l : Layout} {i : Int} : (l.slot? i).isSome ↔ 0 ≤ i ∧ i < l.size := by
  rw [slot?, size]
  split
  · next hneg => simp only [Option.isSome_none, Bool.false_eq_true, false_iff]; omega
  · next hneg => rw [isSome_getElem?]; omega

theorem instructionOperand?_eq_some {l : Layout} {i j : Int} :
    l.instructionOperand? i = some j ↔ l.slot? i = some (.operand j) := by
  rw [instructionOperand?]
  split <;> simp_all

/-- The two maps are inverse to each other. -/
private theorem instructionOperand?_iff_renderedOperand? {l : Layout}
    (h : ∀ p e, ¬Faulty l.slots count p e) (i j : Int) :
    l.instructionOperand? i = some j ↔ l.renderedOperand? j = some i := by
  rw [instructionOperand?_eq_some, slot?_eq_some, renderedOperand?, Option.map_eq_some_iff]
  constructor
  · rintro ⟨hi, hslot⟩
    exact ⟨i.toNat, (not_faulty_iff.mp h _ _ hslot).2, Int.toNat_of_nonneg hi⟩
  · rintro ⟨n, hn, rfl⟩
    obtain ⟨hlt, hslot, -⟩ := List.idxOf?_eq_some_iff.mp hn
    exact ⟨Int.natCast_nonneg n, List.getElem?_eq_some_iff.mpr ⟨hlt, hslot⟩⟩

/-- A slot shows an operand of the instruction or a synthetic one, which has an access. -/
private theorem shows_exactly_one {l : Layout} {i : Int} (hi : 0 ≤ i ∧ i < l.size) :
    Xor (l.instructionOperand? i).isSome (l.synthetic? i).isSome := by
  obtain ⟨s, hs⟩ := Option.isSome_iff_exists.mp (slot?_isSome.mpr hi)
  rw [instructionOperand?, synthetic?, hs]
  cases s <;> simp [Xor]

private theorem shows_nothing {l : Layout} {i : Int} (hi : ¬(0 ≤ i ∧ i < l.size)) :
    l.instructionOperand? i = none ∧ l.synthetic? i = none := by
  have hnone : l.slot? i = none := by
    rwa [← slot?_isSome, Option.not_isSome_iff_eq_none] at hi
  rw [instructionOperand?, synthetic?, hnone]
  exact ⟨rfl, rfl⟩

/-- A layout is built just if its slots refer to operands of the instruction and to none of them
twice; else the first slot that is at fault is reported. In a layout that was built, the maps from
positions to operands and back are inverse to each other, and each position shows either an operand of
the instruction or a synthetic one. -/
theorem build_iff_injective (slots : List Slot) (count : Int) :
    ((∃ l, build slots count = .ok l) ↔
      (∀ k, .operand k ∈ slots → 0 ≤ k ∧ k < count) ∧ (slots.filterMap Slot.operand?).Nodup) ∧
    (∀ e, build slots count = .error e ↔
      ∃ p, Faulty slots count p e ∧ ∀ q < p, ∀ e', ¬Faulty slots count q e') ∧
    ∀ l, build slots count = .ok l → l.slots = slots ∧
      (∀ i j, l.instructionOperand? i = some j ↔ l.renderedOperand? j = some i) ∧
      (∀ i, ((l.access? i).isSome ↔ (l.synthetic? i).isSome) ∧
        (0 ≤ i ∧ i < slots.length → Xor (l.instructionOperand? i).isSome (l.synthetic? i).isSome) ∧
        (¬(0 ≤ i ∧ i < slots.length) →
          l.instructionOperand? i = none ∧ l.synthetic? i = none ∧ l.access? i = none)) := by
  refine ⟨?_, fun e => ?_, fun l hl => ?_⟩
  · simp only [build_eq_ok, exists_and_left, exists_eq, and_true]
    rw [not_faulty_iff, nodup_iff]
    constructor
    · intro h
      refine ⟨fun k hk => ?_, fun p k hslot => (h p k hslot).2⟩
      obtain ⟨p, hslot⟩ := List.mem_iff_getElem?.mp hk
      exact (h p k hslot).1
    · rintro ⟨hrange, hfirst⟩ p k hslot
      exact ⟨hrange k (List.mem_of_getElem? hslot), hfirst p k hslot⟩
  · simp [build_eq_error, FirstFault]
  · obtain ⟨hclean, rfl⟩ := build_eq_ok.mp hl
    refine ⟨rfl, instructionOperand?_iff_renderedOperand? hclean, fun i => ⟨?_, ?_, fun hi => ?_⟩⟩
    · rw [access?, Option.isSome_map]
    · exact shows_exactly_one
    · obtain ⟨hoperand, hsynthetic⟩ := shows_nothing (l := ⟨slots⟩) hi
      exact ⟨hoperand, hsynthetic, by rw [access?, hsynthetic]; rfl⟩

/-- Where a slot repeats an operand, the one after it that is out of range is not reported. Synthetic
slots may be repeated. -/
theorem build_iff_injective_reversed :
    let mark : Slot := .synthetic ⟨"\x7brn-sae\x7d", .none⟩
    build [mark, .operand 1, .operand 1, .operand 5] 2 = .error (.slotRepeated 1 1 2) ∧
    ∃ l, build [mark, .operand 1, mark, .operand 0] 2 = .ok l ∧
      l.renderedOperand? 0 = some 3 ∧ l.instructionOperand? 3 = some 0 ∧
      l.instructionOperand? (-1) = none ∧ Xor (l.instructionOperand? 2).isSome (l.synthetic? 2).isSome := by
  intro mark
  obtain ⟨-, hfault, -⟩ := build_iff_injective [mark, .operand 1, .operand 1, .operand 5] 2
  have hclean : ∀ q < 2, ∀ e, ¬Faulty [mark, .operand 1, .operand 1, .operand 5] 2 q e := by
    intro q hq e he
    interval_cases q
    · rcases he with ⟨hslot, -⟩ | ⟨hslot, -, -, -⟩ <;> simp [mark] at hslot
    · rcases he with ⟨⟨⟩, hk⟩ | ⟨⟨⟩, -, hfirst, hlt⟩
      · omega
      · cases hfirst
        omega
  obtain ⟨hbuilt, -, hmaps⟩ := build_iff_injective [mark, .operand 1, mark, .operand 0] 2
  obtain ⟨l, hl⟩ := hbuilt.mpr ⟨by simp [mark], by decide⟩
  obtain ⟨hslots, hinverse, hshown⟩ := hmaps l hl
  have hback : l.renderedOperand? 0 = some 3 := by
    rw [renderedOperand?, hslots]
    rfl
  exact ⟨(hfault _).mpr ⟨2, .repeated rfl (by decide) rfl (by decide), hclean⟩, l, hl, hback,
    (hinverse 3 0).mpr hback, ((hshown (-1)).2.2 (by simp)).1, (hshown 2).2.1 (by simp)⟩

end Layout
end AsmListing
