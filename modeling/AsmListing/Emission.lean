import AsmListing.Error
import AsmListing.Token

/-! Writing tokens. Writing stops at the first failure, and the tokens written before it remain. -/
namespace AsmListing

structure Emission where
  tokens : List Token := []
  failure : Option Error := none
  deriving Repr, Inhabited

namespace Emission

def write (cls : TokenClass) (text : String) : Emission := ⟨[⟨cls, text⟩], none⟩

def fail (e : Error) : Emission := ⟨[], some e⟩

def ofTokens (ts : List Token) : Emission := ⟨ts, none⟩

/-- Write the second after the first, unless the first fails. -/
def append (a b : Emission) : Emission :=
  match a.failure with
  | some _ => a
  | none => ⟨a.tokens ++ b.tokens, b.failure⟩

instance : Append Emission := ⟨append⟩

theorem append_def (a b : Emission) :
    a ++ b = match a.failure with | some _ => a | none => ⟨a.tokens ++ b.tokens, b.failure⟩ := rfl

@[simp] theorem empty_append (e : Emission) : ({} : Emission) ++ e = e := rfl

@[simp] theorem append_empty (e : Emission) : e ++ ({} : Emission) = e := by
  obtain ⟨tokens, failure⟩ := e
  cases failure <;> simp [append_def]

@[simp] theorem fail_append (e : Error) (next : Emission) : fail e ++ next = fail e := rfl

theorem append_assoc (a b c : Emission) : a ++ b ++ c = a ++ (b ++ c) := by
  obtain ⟨first, failure⟩ := a
  obtain ⟨second, failure'⟩ := b
  cases failure <;> cases failure' <;> simp [append_def]

/-- The first failure is the one that counts. -/
theorem failure_append (a b : Emission) : (a ++ b).failure = a.failure.or b.failure := by
  obtain ⟨tokens, failure⟩ := a
  cases failure <;> rfl

theorem tokens_append_of_succeeds {a : Emission} (h : a.failure = none) (b : Emission) :
    (a ++ b).tokens = a.tokens ++ b.tokens := by
  rw [append_def, h]

/-- Write if the condition holds. -/
def when (condition : Bool) (e : Emission) : Emission := if condition then e else {}

/-- Write what a computation gives, or fail with it. -/
def ofExcept {α : Type} (x : Except Error α) (next : α → Emission) : Emission :=
  match x with
  | .ok a => next a
  | .error e => fail e

/-- Write a token whose text is computed. -/
def writeOf (cls : TokenClass) (text : Except Error String) : Emission :=
  ofExcept text (write cls)

/-- Write one after the other, with the separator between them. -/
def join (separator : Emission) : List Emission → Emission
  | [] => {}
  | [e] => e
  | e :: es => e ++ separator ++ join separator es

def succeeded (e : Emission) : Bool := e.failure.isNone

def text (e : Emission) : String := Token.textOf e.tokens

end Emission

/-- What has been written so far: all tokens, and the text since it was last cleared. -/
structure Transcript where
  tokens : List Token := []
  text : String := ""
  deriving Repr, Inhabited

namespace Transcript

def record (t : Transcript) (e : Emission) : Transcript :=
  ⟨t.tokens ++ e.tokens, t.text ++ e.text⟩

def clearText (t : Transcript) : Transcript := { t with text := "" }

def tokenText (t : Transcript) : String := Token.textOf t.tokens

def kinds (t : Transcript) : List TextKind := t.tokens.map Token.kind

end Transcript

end AsmListing
