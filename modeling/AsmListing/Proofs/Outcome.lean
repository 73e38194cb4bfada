import Mathlib

/-! When a computation that may fail succeeds, and with what it fails. -/
namespace AsmListing.Outcome
variable {ε ε' α β ι : Type}

theorem bind_eq_ok {x : Except ε α} {f : α → Except ε β} {b : β} :
    x >>= f = .ok b ↔ ∃ a, x = .ok a ∧ f a = .ok b := by
  cases x <;> simp [bind, Except.bind]

theorem map_eq_ok {x : Except ε α} {f : α → β} {b : β} :
    x.map f = .ok b ↔ ∃ a, x = .ok a ∧ f a = b := by
  cases x <;> simp [Except.map]

theorem mapError_eq_ok {x : Except ε α} {f : ε → ε'} {a : α} :
    x.mapError f = .ok a ↔ x = .ok a := by
  cases x <;> simp [Except.mapError]

theorem mapError_eq_error {x : Except ε α} {f : ε → ε'} {e' : ε'} :
    x.mapError f = .error e' ↔ ∃ e, x = .error e ∧ f e = e' := by
  cases x <;> simp [Except.mapError]

theorem ite_eq_ok {p : Prop} [Decidable p] {x : Except ε α} {e : ε} {a : α} :
    (if p then x else .error e) = .ok a ↔ p ∧ x = .ok a := by
  by_cases hp : p <;> simp [hp]

theorem ite_error_eq_ok {p : Prop} [Decidable p] {x : Except ε α} {e : ε} {a : α} :
    (if p then .error e else x) = .ok a ↔ ¬p ∧ x = .ok a := by
  by_cases hp : p <;> simp [hp]

/-- A check that fails under a condition lets a computation go on if the condition is not met. -/
theorem guard_eq_ok {p : Prop} [Decidable p] {e : ε} {next : Unit → Except ε α} {a : α} :
    (if p then Except.error e >>= next else next ()) = .ok a ↔ ¬p ∧ next () = .ok a := by
  by_cases hp : p <;> simp [hp, bind, Except.bind]

theorem exists_error_iff {x : Except ε α} : (∃ e, x = .error e) ↔ ¬∃ a, x = .ok a := by
  cases x <;> simp

/-- A list is mapped successfully if each of its elements is. -/
theorem mapM_eq_ok {f : ι → Except ε α} {xs : List ι} {ys : List α} :
    xs.mapM f = .ok ys ↔ List.Forall₂ (fun x y => f x = .ok y) xs ys := by
  induction xs generalizing ys with
  | nil =>
    rw [List.mapM_nil, List.forall₂_nil_left_iff]
    exact ⟨fun h => (Except.ok.inj h).symm, fun h => congrArg _ h.symm⟩
  | cons x xs ih =>
    rw [List.mapM_cons, List.forall₂_cons_left_iff, bind_eq_ok]
    constructor
    · rintro ⟨y, hy, h⟩
      obtain ⟨ys', hys, h⟩ := bind_eq_ok.mp h
      exact ⟨y, ys', hy, ih.mp hys, (Except.ok.inj h).symm⟩
    · rintro ⟨y, ys', hy, hys, rfl⟩
      exact ⟨y, hy, bind_eq_ok.mpr ⟨ys', ih.mpr hys, rfl⟩⟩

theorem exists_of_forall₂ {R : α → β → Prop} {xs : List α} {ys : List β} (h : List.Forall₂ R xs ys)
    {y : β} (hy : y ∈ ys) : ∃ x ∈ xs, R x y := by
  induction h with
  | nil => cases hy
  | @cons a b as bs hab _ ih =>
    rcases List.mem_cons.mp hy with rfl | hy
    · exact ⟨a, List.mem_cons_self, hab⟩
    · obtain ⟨x, hx, hxy⟩ := ih hy
      exact ⟨x, List.mem_cons_of_mem a hx, hxy⟩

theorem exists_forall₂ {R : α → β → Prop} {xs : List α} (h : ∀ x ∈ xs, ∃ y, R x y) :
    ∃ ys, List.Forall₂ R xs ys := by
  induction xs with
  | nil => exact ⟨[], .nil⟩
  | cons x xs ih =>
    obtain ⟨y, hy⟩ := h x List.mem_cons_self
    obtain ⟨ys, hys⟩ := ih fun a ha => h a (List.mem_cons_of_mem x ha)
    exact ⟨y :: ys, .cons hy hys⟩

section MapError
variable {g : ε → ε'} {x : Except ε α} {x' : Except ε' α}

/-! A computation with other errors is built from its steps with other errors. -/

theorem map_eq_mapError (h : x' = x.mapError g) (f : α → β) : x'.map f = (x.map f).mapError g := by
  subst h
  cases x <;> rfl

theorem bind_eq_mapError {f : α → Except ε β} {f' : α → Except ε' β} (h : x' = x.mapError g)
    (hf : ∀ a, f' a = (f a).mapError g) : x' >>= f' = (x >>= f).mapError g := by
  subst h
  cases x with
  | error e => rfl
  | ok a => exact hf a

theorem mapM_eq_mapError {f : ι → Except ε α} {f' : ι → Except ε' α}
    (h : ∀ i, f' i = (f i).mapError g) (xs : List ι) : xs.mapM f' = (xs.mapM f).mapError g := by
  induction xs with
  | nil => rfl
  | cons i xs ih =>
    rw [List.mapM_cons, List.mapM_cons]
    exact bind_eq_mapError (h i) fun a => bind_eq_mapError ih fun as => rfl

end MapError

section OnlyFails
variable {P : ε → Prop} {x : Except ε α}

/-- The errors that the computation can end with have a property. -/
def OnlyFails (P : ε → Prop) (x : Except ε α) : Prop := ∀ e, x = .error e → P e

theorem onlyFails_ok (a : α) : OnlyFails P (.ok a) := nofun

theorem onlyFails_error {e : ε} (h : P e) : OnlyFails P (.error e : Except ε α) := by
  rintro _ ⟨⟩
  exact h

theorem OnlyFails.imp {Q : ε → Prop} (h : OnlyFails P x) (hPQ : ∀ e, P e → Q e) : OnlyFails Q x :=
  fun e he => hPQ e (h e he)

/-- Errors that stay the same need not be changed. -/
theorem OnlyFails.mapError_eq_self {g : ε → ε} (h : OnlyFails (fun e => g e = e) x) : x.mapError g = x := by
  cases x with
  | error e => exact congrArg _ (h e rfl)
  | ok a => rfl

/-- The second computation starts from what the first one gives. -/
theorem OnlyFails.bind_of_eq_ok {f : α → Except ε β} (hx : OnlyFails P x)
    (hf : ∀ a, x = .ok a → OnlyFails P (f a)) : OnlyFails P (x >>= f) := by
  cases x with
  | error e => exact onlyFails_error (hx e rfl)
  | ok a => exact hf a rfl

theorem OnlyFails.bind {f : α → Except ε β} (hx : OnlyFails P x) (hf : ∀ a, OnlyFails P (f a)) :
    OnlyFails P (x >>= f) :=
  hx.bind_of_eq_ok fun a _ => hf a

theorem OnlyFails.map {f : α → β} (h : OnlyFails P x) : OnlyFails P (x.map f) := by
  cases x with
  | error e => exact onlyFails_error (h e rfl)
  | ok a => exact onlyFails_ok (f a)

theorem OnlyFails.mapError {Q : ε' → Prop} {f : ε' → ε} {x : Except ε' α} (hx : OnlyFails Q x)
    (h : ∀ e, Q e → P (f e)) : OnlyFails P (x.mapError f) := by
  cases x with
  | error e => exact onlyFails_error (h e (hx e rfl))
  | ok a => exact onlyFails_ok a

theorem onlyFails_mapError {f : ε' → ε} {x : Except ε' α} (h : ∀ e, P (f e)) :
    OnlyFails P (x.mapError f) :=
  OnlyFails.mapError (Q := fun _ => True) (fun _ _ => trivial) fun e _ => h e

theorem onlyFails_ite {p : Prop} [Decidable p] {x y : Except ε α} (hx : p → OnlyFails P x)
    (hy : ¬p → OnlyFails P y) : OnlyFails P (if p then x else y) := by
  split
  · next h => exact hx h
  · next h => exact hy h

/-- A check that is made on a condition, before what comes next. -/
theorem onlyFails_guard {p : Prop} [Decidable p] {check : Except ε Unit} {next : Unit → Except ε α}
    (hcheck : p → OnlyFails P check) (hnext : OnlyFails P (next ())) :
    OnlyFails P (if p then check >>= next else next ()) :=
  onlyFails_ite (fun h => (hcheck h).bind fun _ => hnext) fun _ => hnext

theorem onlyFails_mapM {f : ι → Except ε α} {xs : List ι} (h : ∀ i ∈ xs, OnlyFails P (f i)) :
    OnlyFails P (xs.mapM f) := by
  induction xs with
  | nil => exact onlyFails_ok []
  | cons i xs ih =>
    rw [List.mapM_cons]
    have hrest := ih fun j hj => h j (List.mem_cons_of_mem i hj)
    exact (h i List.mem_cons_self).bind fun a => hrest.bind fun as => onlyFails_ok (a :: as)

theorem onlyFails_foldlM {f : α → ι → Except ε α} (h : ∀ a i, OnlyFails P (f a i)) (xs : List ι)
    (a : α) : OnlyFails P (xs.foldlM f a) := by
  induction xs generalizing a with
  | nil => exact onlyFails_ok a
  | cons i xs ih =>
    rw [List.foldlM_cons]
    exact (h a i).bind ih

end OnlyFails

/-- What each step keeps holds at the end. -/
theorem foldlM_keeps {I : α → Prop} {f : α → ι → Except ε α} {xs : List ι}
    (h : ∀ i ∈ xs, ∀ a b, I a → f a i = .ok b → I b) {a b : α} (ha : I a)
    (hb : xs.foldlM f a = .ok b) : I b := by
  induction xs generalizing a with
  | nil =>
    cases hb
    exact ha
  | cons i xs ih =>
    obtain ⟨c, hc, hb⟩ := bind_eq_ok.mp (List.foldlM_cons.symm.trans hb)
    exact ih (fun j hj => h j (List.mem_cons_of_mem i hj)) (h i List.mem_cons_self a c ha hc) hb

end AsmListing.Outcome
