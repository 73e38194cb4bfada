import Mathlib
import AsmListing.Proofs.Formatter.Totality

/-! What is left behind where an operand cannot be written: all that comes before it, and what was
written of the operand itself. -/
namespace AsmListing
namespace Emission
variable {separator : Emission} {es : List Emission} {e : Emission}

theorem eq_ofTokens_of_succeeds (h : e.failure = none) : e = ofTokens e.tokens := by
  obtain ⟨tokens, failure⟩ := e
  cases h
  rfl

theorem append_of_fails (h : e.failure ≠ none) (next : Emission) : e ++ next = e := by
  obtain ⟨cause, hcause⟩ := Option.ne_none_iff_exists'.mp h
  rw [append_def, hcause]

theorem ofTokens_append_eq (ts : List Token) (next : Emission) :
    ofTokens ts ++ next = ⟨ts ++ next.tokens, next.failure⟩ := rfl

private theorem join_cons (hne : es ≠ []) :
    join separator (e :: es) = e ++ separator ++ join separator es := by
  cases es with
  | nil => exact absurd rfl hne
  | cons e' es => rfl

/-- Where all succeed, their tokens are written with those of the separator between them. -/
theorem join_of_succeeds (hs : separator.failure = none) (hes : ∀ e ∈ es, e.failure = none) :
    join separator es = ofTokens (separator.tokens.intercalate (es.map tokens)) := by
  induction es with
  | nil => rfl
  | cons e es ih =>
    have he := eq_ofTokens_of_succeeds (hes e List.mem_cons_self)
    have hrest := ih fun x hx => hes x (List.mem_cons_of_mem e hx)
    by_cases hne : es = []
    · subst hne
      rw [List.map_singleton, List.intercalate_singleton]
      exact he
    · rw [join_cons hne, hrest, he, eq_ofTokens_of_succeeds hs, ofTokens_append, ofTokens_append,
        List.map_cons, List.intercalate_cons_of_ne_nil (by simpa using hne)]
      rfl

/-- The first that fails ends the writing. Those before it are complete, each with a separator. -/
theorem join_of_fails (hs : separator.failure = none) {before after : List Emission}
    (hbefore : ∀ b ∈ before, b.failure = none) (he : e.failure ≠ none) :
    join separator (before ++ e :: after) =
      ⟨(before.flatMap fun b => b.tokens ++ separator.tokens) ++ e.tokens, e.failure⟩ := by
  induction before with
  | nil =>
    cases after with
    | nil => rfl
    | cons e' after =>
      rw [List.nil_append, join_cons (by simp), append_of_fails he, append_of_fails he]
      rfl
  | cons b before ih =>
    have hb := eq_ofTokens_of_succeeds (hbefore b List.mem_cons_self)
    have hrest := ih fun x hx => hbefore x (List.mem_cons_of_mem b hx)
    rw [List.cons_append, join_cons (by simp), hrest, hb, eq_ofTokens_of_succeeds hs, ofTokens_append,
      ofTokens_append_eq, List.flatMap_cons, List.append_assoc, List.append_assoc, List.append_assoc]
    rfl

end Emission

namespace Formatter
open Emission
variable {f : Formatter} {i : Instruction}

private theorem operandList_of_fails {k : Nat} (hk : k < f.operandCount i)
    (hfail : (f.operand i k).failure ≠ none)
    (hbefore : ∀ m : Nat, m < k → (f.operand i m).failure = none) :
    f.operandList i =
      ⟨((List.range k).flatMap fun (m : Nat) => (f.operand i m).tokens ++ f.separator.tokens) ++
        (f.operand i k).tokens, (f.operand i k).failure⟩ := by
  obtain ⟨n, hn⟩ := Nat.exists_eq_add_of_lt hk
  have hrange : List.range (f.operandCount i) = List.range k ++ k :: (List.range n).map (k + 1 + ·) := by
    rw [hn, Nat.add_right_comm, List.range_add, List.range_succ, List.append_assoc]
    rfl
  have hcomplete : ∀ e ∈ (List.range k).map fun (m : Nat) => f.operand i m, e.failure = none := by
    intro e he
    obtain ⟨m, hm, rfl⟩ := List.mem_map.mp he
    exact hbefore m (List.mem_range.mp hm)
  rw [operandList, hrange, List.map_append, List.map_cons,
    join_of_fails f.failure_separator hcomplete hfail, List.flatMap_map]

theorem operandList_of_succeeds
    (hall : ∀ k : Nat, k < f.operandCount i → (f.operand i k).failure = none) :
    f.operandList i = .ofTokens (f.separator.tokens.intercalate
      ((List.range (f.operandCount i)).map fun (k : Nat) => (f.operand i k).tokens)) := by
  have hcomplete : ∀ e ∈ (List.range (f.operandCount i)).map fun (k : Nat) => f.operand i k,
      e.failure = none := by
    intro e he
    obtain ⟨k, hk, rfl⟩ := List.mem_map.mp he
    exact hall k (List.mem_range.mp hk)
  rw [operandList, join_of_succeeds f.failure_separator hcomplete, List.map_map]
  rfl

/-- If an operand fails, there is a first one that does. -/
private theorem exists_first_failure {k : Nat} (hk : k < f.operandCount i)
    (hfail : (f.operand i k).failure ≠ none) : ∃ n : Nat, n < f.operandCount i ∧
      (f.operand i n).failure ≠ none ∧ ∀ m : Nat, m < n → (f.operand i m).failure = none := by
  classical
  have hsome : ∃ n : Nat, (f.operand i n).failure ≠ none := ⟨k, hfail⟩
  refine ⟨Nat.find hsome, (Nat.find_min' hsome hfail).trans_lt hk, Nat.find_spec hsome, fun m hm => ?_⟩
  exact not_not.mp (Nat.find_min hsome hm)

/-- Unless the rounding control cannot be written, formatting fails just if some operand does, with the
failure of the first such operand. The mnemonic and the operands before it remain, each of these with
a separator, and so does what was written of the failing operand. If no operand fails, their tokens are
written with separators between them. The check for the rounding control makes no difference. -/
theorem instruction_stops_at_first_failure (f : Formatter) {i : Instruction} (h : ¬f.Inexpressible i) :
    ((f.instruction i).failure ≠ none ↔
      ∃ k : Int, 0 ≤ k ∧ k < f.operandCount i ∧ (f.operand i k).failure ≠ none) ∧
    (∀ k : Nat, k < f.operandCount i → (f.operand i k).failure ≠ none →
      (∀ m : Nat, m < k → (f.operand i m).failure = none) →
      f.instruction i = ⟨(f.mnemonic i).tokens ++
        ((List.range k).flatMap fun (m : Nat) => (f.operand i m).tokens ++ f.separator.tokens) ++
        (f.operand i k).tokens, (f.operand i k).failure⟩) ∧
    ((∀ k : Nat, k < f.operandCount i → (f.operand i k).failure = none) →
      f.instruction i = .ofTokens ((f.mnemonic i).tokens ++ f.separator.tokens.intercalate
        ((List.range (f.operandCount i)).map fun (k : Nat) => (f.operand i k).tokens))) ∧
    f.mnemonicThenOperands i = f.instruction i ∧ f.operandList i = f.allOperands i := by
  have hwritten := instruction_eq_append h
  have hmnemonic : f.mnemonic i = .ofTokens (f.mnemonic i).tokens := rfl
  have hstops {k : Nat} (hk : k < f.operandCount i) (hfail : (f.operand i k).failure ≠ none)
      (hbefore : ∀ m : Nat, m < k → (f.operand i m).failure = none) :
      f.instruction i = ⟨(f.mnemonic i).tokens ++
        ((List.range k).flatMap fun (m : Nat) => (f.operand i m).tokens ++ f.separator.tokens) ++
        (f.operand i k).tokens, (f.operand i k).failure⟩ := by
    rw [hwritten, operandList_of_fails hk hfail hbefore, hmnemonic, ofTokens_append_eq,
      List.append_assoc]
    rfl
  have hfinishes (hall : ∀ k : Nat, k < f.operandCount i → (f.operand i k).failure = none) :
      f.instruction i = .ofTokens ((f.mnemonic i).tokens ++ f.separator.tokens.intercalate
        ((List.range (f.operandCount i)).map fun (k : Nat) => (f.operand i k).tokens)) := by
    rw [hwritten, operandList_of_succeeds hall, hmnemonic, ofTokens_append]
    rfl
  refine ⟨⟨fun hfail => ?_, ?_⟩, fun k => hstops, hfinishes, ?_, ?_⟩
  · by_contra hnone
    push Not at hnone
    rw [hfinishes fun k hk => hnone k (by omega) (by omega)] at hfail
    exact hfail rfl
  · rintro ⟨k, hlow, hhigh, hfail⟩
    obtain ⟨k, rfl⟩ := Int.eq_ofNat_of_zero_le hlow
    obtain ⟨n, hn, hfirst, hbefore⟩ := exists_first_failure (by omega) hfail
    rw [hstops hn hfirst hbefore]
    exact hfirst
  · rw [instruction, checkRounding_of_expressible h, empty_append]
  · rw [allOperands, checkRounding_of_expressible h, empty_append]

/-- An index that is no register is met after the size, the bracket, the base and the plus sign are
out. The operand after it is not looked at. -/
theorem instruction_stops_at_first_failure_raw_index :
    let f : Formatter := ⟨.intel, .intel⟩
    let i : Instruction := { mnemonic := "mov", operands := [
      { kind := .register, size := 4, register := .register .eax },
      { kind := .memory, size := 4, base := .register .rbx, index := .unchecked (.integer 999) },
      { kind := .immediate, size := -1 }] }
    ¬f.Inexpressible i ∧ (f.operand i 2).failure = some .negativeWidth ∧
      (f.instruction i).tokens = (f.mnemonic i).tokens ++ [⟨.register, "eax"⟩, ⟨.separator, ","⟩,
        ⟨.keyword, "dword"⟩, ⟨.space, " "⟩, ⟨.keyword, "ptr"⟩, ⟨.space, " "⟩, ⟨.beginMemory, "["⟩,
        ⟨.register, "rbx"⟩, ⟨.operator, "+"⟩] ∧
      (f.instruction i).failure =
        some (.argument (.unwritableRegister (.unchecked (.integer 999)))) := by
  intro f i
  have hexpressible : ¬f.Inexpressible i := fun h => h.1 rfl
  have hfirst : (f.operand i (0 : Nat)).failure = none := rfl
  have hfail : (f.operand i (1 : Nat)).failure =
      some (.argument (.unwritableRegister (.unchecked (.integer 999)))) := rfl
  have hstops := (instruction_stops_at_first_failure f hexpressible).2.1 1 (by decide)
    (by rw [hfail]; exact Option.some_ne_none _) fun m hm => by rw [Nat.lt_one_iff.mp hm, hfirst]
  refine ⟨hexpressible, rfl, ?_, ?_⟩
  · rw [hstops, List.append_assoc]
    exact congrArg ((f.mnemonic i).tokens ++ ·) rfl
  · exact (congrArg Emission.failure hstops).trans hfail

end Formatter
end AsmListing
