import Mathlib
import AsmListing.Emission

/-! Emissions that succeed. Such an emission is its list of tokens, and writing one after another
appends the lists. Success is one of the properties that hold of a whole because they hold of its parts. -/
namespace AsmListing.Emission

@[simp] theorem failure_ofTokens (ts : List Token) : (ofTokens ts).failure = none := rfl

@[simp] theorem tokens_ofTokens (ts : List Token) : (ofTokens ts).tokens = ts := rfl

@[simp] theorem failure_write (cls : TokenClass) (text : String) : (write cls text).failure = none :=
  rfl

theorem write_eq_ofTokens (cls : TokenClass) (text : String) : write cls text = ofTokens [⟨cls, text⟩] :=
  rfl

theorem ofTokens_append (ts us : List Token) : ofTokens ts ++ ofTokens us = ofTokens (ts ++ us) := rfl

@[simp] theorem when_false (e : Emission) : when false e = {} := rfl

theorem when_ofTokens (condition : Bool) (ts : List Token) :
    when condition (ofTokens ts) = ofTokens (if condition then ts else []) := by
  cases condition <;> rfl

theorem failure_append_eq_none {a b : Emission} :
    (a ++ b).failure = none ↔ a.failure = none ∧ b.failure = none := by
  rw [failure_append, Option.or_eq_none_iff]

theorem failure_when_eq_none {condition : Bool} {e : Emission} :
    (when condition e).failure = none ↔ (condition → e.failure = none) := by
  cases condition <;> simp [when]

/-- The property holds where nothing is written, and is kept when one emission follows another. -/
structure Closed (Q : Emission → Prop) : Prop where
  empty : Q {}
  append {a b : Emission} (ha : Q a) (hb : Q b) : Q (a ++ b)

namespace Closed
variable {Q : Emission → Prop} {e separator : Emission} {es : List Emission}

theorem when (h : Closed Q) {condition : Bool} (he : condition → Q e) : Q (.when condition e) := by
  cases condition with
  | false => exact h.empty
  | true => exact he rfl

theorem join (h : Closed Q) (hs : Q separator) (hes : ∀ e ∈ es, Q e) : Q (.join separator es) := by
  induction es with
  | nil => exact h.empty
  | cons e es ih =>
    obtain ⟨he, hrest⟩ := List.forall_mem_cons.mp hes
    cases es with
    | nil => exact he
    | cons e' es => exact h.append (h.append he hs) (ih hrest)

end Closed

theorem closed_succeeds : Closed fun e => e.failure = none :=
  ⟨rfl, fun ha hb => failure_append_eq_none.mpr ⟨ha, hb⟩⟩

end AsmListing.Emission
